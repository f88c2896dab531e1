import Mathlib.Logic.Basic
import Lookout.Poll.Health
/-!
# What subscribers are told

A history of a store is a list of operations (`HealthStore.Op`): channels are made known, their
health is stored, subscribers come and, when they stop listening, go.  `HealthStore.after` is the
store after a history, and `HealthStore.transcript` says what each operation gave back.

* **A subscriber that still listens can rebuild the store** (`subscribers_replay_the_store`): it
  was told of every change since it came, once each and in order, each change starts from what the
  earlier ones led to, and all of them lead from the store as it was to the store as it is.
* The same statement says when storing a value is a change, that nothing is lost on those who
  listen and that those who do not are dropped with the next change, and which channels the
  snapshot lists.

What there is to tell about an operation depends on the store before it alone (`announced`).  One
lemma says that this is what an operation does to the map of healths (`get_perform`), another that
it is what a listener gains (`subscriber_perform`); the statement about whole histories follows by
induction on what comes after the subscription.
-/

namespace Lookout

/-- The healths of all channels after a change, as someone who is told about it works them out. -/
def HealthChange.applyTo (m : ChannelId → ChannelHealth) (e : HealthChange) :
    ChannelId → ChannelHealth :=
  fun c => if c = e.channel then e.current else m c

namespace HealthStore

/-- What can be asked of a store. -/
inductive Op where
  /-- Make a channel known. -/
  | register (c : ChannelId)
  /-- Store the health of a channel. -/
  | set (c : ChannelId) (h : ChannelHealth)
  /-- Be told about changes from now on. -/
  | subscribe
  /-- Stop listening. -/
  | drop (id : Nat)

/-- What an operation gives back. -/
inductive Answer where
  /-- Nothing. -/
  | done
  /-- Whether the health is another one than before. -/
  | changed (yes : Bool)
  /-- The number of a subscriber. -/
  | subscriber (id : Nat)

/-- Carry out an operation. -/
def perform (s : HealthStore) : Op → Answer × HealthStore
  | .register c => (.done, s.register c)
  | .set c h =>
    let (yes, s) := s.set c h
    (.changed yes, s)
  | .subscribe =>
    let (id, s) := s.subscribe
    (.subscriber id, s)
  | .drop id => (.done, s.unsubscribe id)

/-- The store after some operations. -/
def after (s : HealthStore) : List Op → HealthStore
  | [] => s
  | op :: ops => (s.perform op).2.after ops

/-- What happens with some operations, in their order. -/
def transcript (s : HealthStore) : List Op → List (Op × Answer)
  | [] => []
  | op :: ops => (op, (s.perform op).1) :: (s.perform op).2.transcript ops

/-- The channel and its new health, if an operation changed one. -/
def change? : Op × Answer → Option (ChannelId × ChannelHealth)
  | (.set c h, .changed true) => some (c, h)
  | _ => none

/-- Work out the healths of all channels from what was told. -/
def replay (m : ChannelId → ChannelHealth) (told : List HealthChange) :
    ChannelId → ChannelHealth :=
  told.foldl HealthChange.applyTo m

variable {s : HealthStore} {ops : List Op}

theorem after_append (s : HealthStore) (first rest : List Op) :
    s.after (first ++ rest) = (s.after first).after rest := by
  induction first generalizing s with
  | nil => rfl
  | cons op first ih => exact ih (s.perform op).2

/-- A transcript speaks of all operations in their order. -/
theorem map_fst_transcript (s : HealthStore) (ops : List Op) :
    (s.transcript ops).map Prod.fst = ops := by
  induction ops generalizing s with
  | nil => rfl
  | cons op ops ih => exact congrArg (op :: ·) (ih (s.perform op).2)

/-! ### Entries -/

/-- The entry of a channel after one was put in its place. -/
theorem lookup?_insert (c d : ChannelId) (h : ChannelHealth)
    (es : List (ChannelId × ChannelHealth)) :
    lookup? d (insert c h es) = if d = c then some h else lookup? d es := by
  induction es with
  | nil =>
    by_cases hd : d = c
    · simp [insert, lookup?, hd]
    · simp [insert, lookup?, hd, Ne.symm hd]
  | cons e es ih =>
    obtain ⟨b, g⟩ := e
    unfold insert
    by_cases hb : c = b
    · subst hb
      rw [if_pos rfl]
      by_cases hd : d = c
      · simp [lookup?, hd]
      · simp [lookup?, hd, Ne.symm hd]
    · rw [if_neg hb]
      by_cases hlt : c.path < b.path
      · rw [if_pos hlt]
        by_cases hd : d = c
        · simp [lookup?, hd]
        · simp [lookup?, hd, Ne.symm hd]
      · rw [if_neg hlt]
        by_cases hd : b = d
        · subst hd
          simp [lookup?, Ne.symm hb]
        · simp only [lookup?, if_neg hd]
          exact ih

/-- The channels that have an entry after one was put in its place. -/
theorem mem_keys_insert (c d : ChannelId) (h : ChannelHealth)
    (es : List (ChannelId × ChannelHealth)) :
    d ∈ (insert c h es).map Prod.fst ↔ d = c ∨ d ∈ es.map Prod.fst := by
  induction es with
  | nil => simp [insert]
  | cons e es ih =>
    obtain ⟨b, g⟩ := e
    unfold insert
    by_cases hb : c = b
    · subst hb
      simp
    · by_cases hlt : c.path < b.path
      · rw [if_neg hb, if_pos hlt]
        simp
      · rw [if_neg hb, if_neg hlt, List.map_cons, List.mem_cons, ih, List.map_cons, List.mem_cons]
        constructor
        · rintro (hd | hd | hd)
          · exact Or.inr (Or.inl hd)
          · exact Or.inl hd
          · exact Or.inr (Or.inr hd)
        · rintro (hd | hd | hd)
          · exact Or.inr (Or.inl hd)
          · exact Or.inl hd
          · exact Or.inr (Or.inr hd)

/-- Of two channels one has the smaller name. -/
theorem path_lt_of_not_lt {c d : ChannelId} (hne : c ≠ d) (h : ¬ c.path < d.path) :
    d.path < c.path := by
  apply String.not_le.mp
  intro hle
  have hpath : c.path = d.path := String.le_antisymm hle (String.not_lt.mp h)
  obtain ⟨path⟩ := c
  obtain ⟨path'⟩ := d
  exact hne (congrArg ChannelId.mk hpath)

/-- Entries in the order of the channels' names, no channel twice. -/
def Ascending (es : List (ChannelId × ChannelHealth)) : Prop :=
  (es.map Prod.fst).Pairwise fun c d => c.path < d.path

/-- An entry is put where the order stays. -/
theorem Ascending.insert {es : List (ChannelId × ChannelHealth)} (hes : Ascending es)
    (c : ChannelId) (h : ChannelHealth) : Ascending (insert c h es) := by
  unfold Ascending at hes ⊢
  induction es with
  | nil => simp [HealthStore.insert]
  | cons e es ih =>
    obtain ⟨b, g⟩ := e
    rw [List.map_cons, List.pairwise_cons] at hes
    obtain ⟨hfirst, hrest⟩ := hes
    unfold HealthStore.insert
    by_cases hb : c = b
    · subst hb
      rw [if_pos rfl, List.map_cons, List.pairwise_cons]
      exact ⟨hfirst, hrest⟩
    · rw [if_neg hb]
      by_cases hlt : c.path < b.path
      · rw [if_pos hlt, List.map_cons, List.map_cons, List.pairwise_cons, List.pairwise_cons]
        refine ⟨?_, hfirst, hrest⟩
        intro d hd
        rcases List.mem_cons.mp hd with rfl | hd
        · exact hlt
        · exact String.lt_trans hlt (hfirst d hd)
      · rw [if_neg hlt, List.map_cons, List.pairwise_cons]
        refine ⟨?_, ih hrest⟩
        intro d hd
        rcases (mem_keys_insert c d h es).mp hd with rfl | hd
        · exact path_lt_of_not_lt hb hlt
        · exact hfirst d hd

/-- Where no channel is twice, an entry is what is found for its channel. -/
theorem lookup?_of_mem {es : List (ChannelId × ChannelHealth)} (hes : Ascending es)
    {c : ChannelId} {h : ChannelHealth} (hmem : (c, h) ∈ es) : lookup? c es = some h := by
  unfold Ascending at hes
  induction es with
  | nil => cases hmem
  | cons e es ih =>
    obtain ⟨b, g⟩ := e
    rw [List.map_cons, List.pairwise_cons] at hes
    obtain ⟨hfirst, hrest⟩ := hes
    rcases List.mem_cons.mp hmem with heq | hmem
    · cases heq
      simp [lookup?]
    · have hne : b ≠ c := by
        rintro rfl
        have hlt := hfirst b (List.mem_map.mpr ⟨(b, h), hmem, rfl⟩)
        exact String.lt_irrefl _ hlt
      simp only [lookup?, if_neg hne]
      exact ih hrest hmem

/-! ### What there is to tell -/

/-- Storing the health that a channel has changes nothing. -/
theorem set_of_eq {c : ChannelId} {h : ChannelHealth} (heq : s.get c = h) :
    s.set c h = (false, s) := by
  unfold set
  simp only [if_pos heq]

/-- Storing another health is a change, told to all who listen. -/
theorem set_of_ne {c : ChannelId} {h : ChannelHealth} (hne : s.get c ≠ h) :
    s.set c h = (true, { s with
      entries := insert c h s.entries
      subscribers := (s.subscribers.filter (·.isOpen)).map (·.deliver ⟨c, s.get c, h⟩) }) := by
  unfold set
  simp only [if_neg hne]

/-- Storing a health is a change exactly if the channel has another one. -/
theorem set_fst_iff (s : HealthStore) (c : ChannelId) (h : ChannelHealth) :
    (s.set c h).1 = true ↔ s.get c ≠ h := by
  by_cases heq : s.get c = h
  · simp [set_of_eq heq, heq]
  · simp [set_of_ne heq, heq]

/-- What there is to tell about an operation. -/
def announced (s : HealthStore) : Op → List HealthChange
  | .set c h => if s.get c = h then [] else [⟨c, s.get c, h⟩]
  | _ => []

/-- Making a channel known leaves the health of all channels as it was. -/
theorem get_register (s : HealthStore) (c d : ChannelId) : (s.register c).get d = s.get d := by
  unfold register
  rcases hc : lookup? c s.entries with _ | g
  · unfold get
    simp only [lookup?_insert]
    by_cases hd : d = c
    · simp [hd, hc]
    · rw [if_neg hd]
  · rfl

/-- Storing the health of a channel leaves that of all others as it was. -/
theorem get_set (s : HealthStore) (c d : ChannelId) (h : ChannelHealth) :
    (s.set c h).2.get d = if d = c then h else s.get d := by
  by_cases heq : s.get c = h
  · rw [set_of_eq heq]
    by_cases hd : d = c
    · rw [if_pos hd, hd, heq]
    · rw [if_neg hd]
  · rw [set_of_ne heq]
    show (lookup? d (insert c h s.entries)).getD .unknown = if d = c then h else s.get d
    rw [lookup?_insert]
    by_cases hd : d = c
    · rw [if_pos hd, if_pos hd]
      rfl
    · rw [if_neg hd, if_neg hd]
      rfl

/-- What an operation does to the health of all channels is what there is to tell about it. -/
theorem get_perform (s : HealthStore) (op : Op) :
    (s.perform op).2.get = replay s.get (s.announced op) := by
  funext d
  cases op with
  | register c => exact get_register s c d
  | set c h =>
    show (s.set c h).2.get d = replay s.get (if s.get c = h then [] else [⟨c, s.get c, h⟩]) d
    rw [get_set]
    by_cases heq : s.get c = h
    · rw [if_pos heq]
      show (if d = c then h else s.get d) = s.get d
      by_cases hd : d = c
      · rw [if_pos hd, hd, heq]
      · rw [if_neg hd]
    · rw [if_neg heq]
      rfl
  | subscribe => rfl
  | drop id => rfl

/-- There is something to tell where an operation changed a health, and nothing else. -/
theorem announced_map (s : HealthStore) (op : Op) :
    (s.announced op).map (fun e => (e.channel, e.current)) =
      (change? (op, (s.perform op).1)).toList := by
  cases op with
  | register c => rfl
  | set c h =>
    show (if s.get c = h then [] else [(⟨c, s.get c, h⟩ : HealthChange)]).map _ =
      (change? (.set c h, .changed (s.set c h).1)).toList
    by_cases heq : s.get c = h
    · rw [if_pos heq, set_of_eq heq]
      rfl
    · rw [if_neg heq, set_of_ne heq]
      rfl
  | subscribe => rfl
  | drop id => rfl

/-- What is told of an operation starts from what the channel had and leads to something else. -/
theorem previous_of_mem_announced {op : Op} {e : HealthChange} (he : e ∈ s.announced op) :
    e.previous = s.get e.channel ∧ e.previous ≠ e.current := by
  cases op with
  | set c h =>
    change e ∈ (if s.get c = h then [] else [(⟨c, s.get c, h⟩ : HealthChange)]) at he
    by_cases heq : s.get c = h
    · rw [if_pos heq] at he
      cases he
    · rw [if_neg heq] at he
      obtain rfl := List.mem_singleton.mp he
      exact ⟨rfl, heq⟩
  | register c => cases he
  | subscribe => cases he
  | drop id => cases he

/-- At most one thing is told of an operation. -/
theorem announced_length_le (s : HealthStore) (op : Op) : (s.announced op).length ≤ 1 := by
  cases op with
  | set c h =>
    show (if s.get c = h then [] else [(⟨c, s.get c, h⟩ : HealthChange)]).length ≤ 1
    by_cases heq : s.get c = h
    · simp [heq]
    · simp [heq]
  | register c => exact Nat.zero_le 1
  | subscribe => exact Nat.zero_le 1
  | drop id => exact Nat.zero_le 1

/-- What there is to tell about some operations, in their order. -/
def announcements (s : HealthStore) : List Op → List HealthChange
  | [] => []
  | op :: ops => s.announced op ++ (s.perform op).2.announcements ops

/-- All that is told leads from the healths at the beginning to those at the end. -/
theorem replay_announcements (s : HealthStore) (ops : List Op) :
    replay s.get (s.announcements ops) = (s.after ops).get := by
  induction ops generalizing s with
  | nil => rfl
  | cons op ops ih =>
    unfold announcements after
    rw [← ih, get_perform]
    exact List.foldl_append

/-- Each change is told once, and in order. -/
theorem announcements_map (s : HealthStore) (ops : List Op) :
    (s.announcements ops).map (fun e => (e.channel, e.current)) =
      (s.transcript ops).filterMap change? := by
  induction ops generalizing s with
  | nil => rfl
  | cons op ops ih =>
    unfold announcements transcript
    rw [List.map_append, ih, announced_map]
    rcases hchange : change? (op, (s.perform op).1) with _ | change
    · rw [List.filterMap_cons_none hchange]
      rfl
    · rw [List.filterMap_cons_some hchange]
      rfl

/-- Each change starts from what the earlier ones led to, and leads to something else. -/
theorem previous_of_announcements {e : HealthChange} {earlier later : List HealthChange}
    (h : s.announcements ops = earlier ++ e :: later) :
    e.previous = replay s.get earlier e.channel ∧ e.previous ≠ e.current := by
  induction ops generalizing s earlier with
  | nil =>
    have hlength := congrArg List.length h
    simp [announcements] at hlength
  | cons op ops ih =>
    unfold announcements at h
    have hget := get_perform s op
    have hlength := announced_length_le s op
    rcases htold : s.announced op with _ | ⟨first, more⟩
    · rw [htold] at h hget
      have hrest := ih h
      rw [hget] at hrest
      exact hrest
    · have hmore : more = [] := by
        rw [htold, List.length_cons] at hlength
        exact List.eq_nil_of_length_eq_zero (by omega)
      subst hmore
      rw [htold] at h hget
      rcases earlier with _ | ⟨first', earlier⟩
      · -- The change that is asked about is that of the first operation.
        obtain ⟨rfl, -⟩ := List.cons.inj h
        have hmem : first ∈ s.announced op := htold ▸ List.mem_cons_self
        exact previous_of_mem_announced hmem
      · rw [List.singleton_append, List.cons_append] at h
        obtain ⟨rfl, hlater⟩ := List.cons.inj h
        have hrest := ih hlater
        rw [hget] at hrest
        exact hrest

/-! ### Those who listen -/

/-- Subscribers have numbers that were given out. -/
def Numbered (s : HealthStore) : Prop := ∀ u ∈ s.subscribers, u.id < s.nextId

/-- An operation keeps subscribers with their numbers, and may add one with the next number. -/
theorem mem_subscribers_perform {op : Op} {u : Subscriber}
    (hu : u ∈ (s.perform op).2.subscribers) :
    (∃ t ∈ s.subscribers, u.id = t.id ∧ (t.isOpen = false → u.isOpen = false)) ∨
      (op = .subscribe ∧ u.id = s.nextId) := by
  cases op with
  | register c =>
    left
    refine ⟨u, ?_, rfl, id⟩
    change u ∈ (s.register c).subscribers at hu
    unfold register at hu
    rcases hc : lookup? c s.entries with _ | g
    · rw [hc] at hu
      exact hu
    · rw [hc] at hu
      exact hu
  | set c h =>
    left
    change u ∈ (s.set c h).2.subscribers at hu
    by_cases heq : s.get c = h
    · rw [set_of_eq heq] at hu
      exact ⟨u, hu, rfl, id⟩
    · rw [set_of_ne heq] at hu
      obtain ⟨t, ht, rfl⟩ := List.mem_map.mp hu
      exact ⟨t, (List.mem_filter.mp ht).1, rfl, id⟩
  | subscribe =>
    rcases List.mem_append.mp hu with hu | hu
    · exact Or.inl ⟨u, hu, rfl, id⟩
    · obtain rfl := List.mem_singleton.mp hu
      exact Or.inr ⟨rfl, rfl⟩
  | drop id =>
    left
    obtain ⟨t, ht, rfl⟩ := List.mem_map.mp hu
    refine ⟨t, ht, ?_, ?_⟩
    · by_cases hid : t.id = id
      · rw [if_pos hid]
      · rw [if_neg hid]
    · intro hclosed
      by_cases hid : t.id = id
      · rw [if_pos hid]
      · rw [if_neg hid]
        exact hclosed

/-- Subscribing uses up a number, and nothing else does. -/
theorem nextId_perform (s : HealthStore) (op : Op) :
    s.nextId ≤ (s.perform op).2.nextId ∧
      (op = .subscribe → (s.perform op).2.nextId = s.nextId + 1) := by
  cases op with
  | register c =>
    refine ⟨?_, nofun⟩
    show s.nextId ≤ (s.register c).nextId
    unfold register
    rcases lookup? c s.entries with _ | g
    · exact Nat.le_refl _
    · exact Nat.le_refl _
  | set c h =>
    refine ⟨?_, nofun⟩
    show s.nextId ≤ (s.set c h).2.nextId
    by_cases heq : s.get c = h
    · simp only [set_of_eq heq, Nat.le_refl]
    · simp only [set_of_ne heq, Nat.le_refl]
  | subscribe => exact ⟨Nat.le_succ _, fun _ => rfl⟩
  | drop id => exact ⟨Nat.le_refl _, nofun⟩

theorem Numbered.perform (hs : s.Numbered) (op : Op) : (s.perform op).2.Numbered := by
  obtain ⟨hle, hnext⟩ := nextId_perform s op
  intro u hu
  rcases mem_subscribers_perform hu with ⟨t, ht, hid, -⟩ | ⟨rfl, hid⟩
  · have hlt := hs t ht
    omega
  · have hsucc := hnext rfl
    omega

theorem Numbered.after (hs : s.Numbered) (ops : List Op) : (s.after ops).Numbered := by
  induction ops generalizing s with
  | nil => exact hs
  | cons op ops ih => exact ih (hs.perform op)

/-- The subscriber of a number. -/
def subscriber? (s : HealthStore) (id : Nat) : Option Subscriber :=
  s.subscribers.find? (·.id == id)

/-- Someone who has just subscribed listens and was told nothing yet. -/
theorem subscriber?_subscribe (hs : s.Numbered) :
    s.subscribe.2.subscriber? s.nextId = some { id := s.nextId } := by
  have hnone : s.subscribers.find? (·.id == s.nextId) = none := by
    rw [List.find?_eq_none]
    intro u hu
    have hlt := hs u hu
    simp only [beq_iff_eq]
    omega
  show (s.subscribers ++ [Subscriber.mk s.nextId true []]).find? (·.id == s.nextId) = _
  rw [List.find?_append, hnone]
  simp

/-- Dropping those who do not listen keeps a subscriber who does. -/
theorem find?_filter_isOpen {us : List Subscriber} {id : Nat} {u : Subscriber}
    (hfind : us.find? (·.id == id) = some u) (hopen : u.isOpen = true) :
    (us.filter (·.isOpen)).find? (·.id == id) = some u := by
  induction us with
  | nil => cases hfind
  | cons t us ih =>
    by_cases hid : t.id = id
    · rw [List.find?_cons_of_pos (by simp [hid])] at hfind
      obtain rfl := Option.some.inj hfind
      rw [List.filter_cons_of_pos hopen, List.find?_cons_of_pos (by simp [hid])]
    · rw [List.find?_cons_of_neg (by simp [hid])] at hfind
      by_cases ht : t.isOpen = true
      · rw [List.filter_cons_of_pos ht, List.find?_cons_of_neg (by simp [hid])]
        exact ih hfind
      · rw [List.filter_cons_of_neg ht]
        exact ih hfind

/-- A change of subscribers that keeps their numbers. -/
theorem find?_map_of_id {f : Subscriber → Subscriber} (hf : ∀ u, (f u).id = u.id)
    (us : List Subscriber) (id : Nat) :
    (us.map f).find? (·.id == id) = (us.find? (·.id == id)).map f := by
  rw [List.find?_map]
  have hid : (fun u : Subscriber => u.id == id) ∘ f = fun u => u.id == id := by
    funext u
    simp [hf u]
  rw [hid]

/-- Someone who listens goes on listening, and gains what there is to tell. -/
theorem subscriber_perform {id : Nat} {u : Subscriber} (hu : s.subscriber? id = some u)
    (hopen : u.isOpen = true) {op : Op} (hop : op ≠ .drop id) :
    (s.perform op).2.subscriber? id = some { u with inbox := u.inbox ++ s.announced op } := by
  have hnothing : some u = some { u with inbox := u.inbox ++ [] } := by
    rw [List.append_nil]
  cases op with
  | register c =>
    show (s.register c).subscriber? id = some { u with inbox := u.inbox ++ [] }
    rw [← hnothing, ← hu]
    unfold register
    rcases lookup? c s.entries with _ | g
    · rfl
    · rfl
  | set c h =>
    show (s.set c h).2.subscriber? id =
      some { u with inbox := u.inbox ++ if s.get c = h then [] else [⟨c, s.get c, h⟩] }
    by_cases heq : s.get c = h
    · rw [set_of_eq heq, if_pos heq, ← hnothing]
      exact hu
    · rw [set_of_ne heq, if_neg heq]
      have hkept := find?_filter_isOpen hu hopen
      have hmap := find?_map_of_id (f := (·.deliver ⟨c, s.get c, h⟩)) (fun _ => rfl)
        (s.subscribers.filter (·.isOpen)) id
      exact hmap.trans (by rw [hkept]; rfl)
  | subscribe =>
    show (s.subscribers ++ [Subscriber.mk s.nextId true []]).find? (·.id == id) =
      some { u with inbox := u.inbox ++ [] }
    rw [← hnothing, List.find?_append, show s.subscribers.find? (·.id == id) = some u from hu]
    rfl
  | drop other =>
    have hne : u.id ≠ other := by
      have hid : u.id = id := by simpa using List.find?_some hu
      rw [hid]
      rintro rfl
      exact hop rfl
    show (s.subscribers.map fun t => if t.id = other then { t with isOpen := false } else t).find?
      (·.id == id) = some { u with inbox := u.inbox ++ [] }
    rw [find?_map_of_id (fun t => by by_cases ht : t.id = other <;> simp [ht]), ← hnothing]
    have hfind : s.subscribers.find? (·.id == id) = some u := hu
    rw [hfind, Option.map_some, if_neg hne]

/-- Someone who goes on listening is told all there is to tell. -/
theorem subscriber_after {id : Nat} {u : Subscriber} (hu : s.subscriber? id = some u)
    (hopen : u.isOpen = true) (hops : Op.drop id ∉ ops) :
    (s.after ops).subscriber? id = some { u with inbox := u.inbox ++ s.announcements ops } := by
  induction ops generalizing s u with
  | nil =>
    unfold after announcements
    rw [hu, List.append_nil]
  | cons op ops ih =>
    rw [List.mem_cons, not_or] at hops
    obtain ⟨hop, hops⟩ := hops
    have hfirst := subscriber_perform hu hopen (Ne.symm hop)
    unfold after announcements
    rw [ih hfirst hopen hops, List.append_assoc]

/-! ### Those who do not -/

/-- Nobody listens under a number. -/
def Deaf (s : HealthStore) (id : Nat) : Prop := ∀ u ∈ s.subscribers, u.id = id → u.isOpen = false

/-- Nobody has a number. -/
def Gone (s : HealthStore) (id : Nat) : Prop := ∀ u ∈ s.subscribers, u.id ≠ id

/-- Who has stopped listening does not listen again. -/
theorem Deaf.perform {id : Nat} (hs : s.Deaf id) (hid : id < s.nextId) (op : Op) :
    (s.perform op).2.Deaf id := by
  intro u hu hnumber
  rcases mem_subscribers_perform hu with ⟨t, ht, hsame, hclosed⟩ | ⟨-, hnext⟩
  · exact hclosed (hs t ht (by rw [← hsame, hnumber]))
  · omega

/-- Who was dropped does not come back. -/
theorem Gone.perform {id : Nat} (hs : s.Gone id) (hid : id < s.nextId) (op : Op) :
    (s.perform op).2.Gone id := by
  intro u hu
  rcases mem_subscribers_perform hu with ⟨t, ht, hsame, -⟩ | ⟨-, hnext⟩
  · rw [hsame]
    exact hs t ht
  · omega

theorem Gone.after {id : Nat} (hs : s.Gone id) (hid : id < s.nextId) (ops : List Op) :
    (s.after ops).Gone id := by
  induction ops generalizing s with
  | nil => exact hs
  | cons op ops ih =>
    have hle := (nextId_perform s op).1
    exact ih (hs.perform hid op) (by omega)

/-- A change drops those who do not listen. -/
theorem Deaf.set {id : Nat} (hs : s.Deaf id) {c : ChannelId} {h : ChannelHealth}
    (hchange : (s.set c h).1 = true) : (s.set c h).2.Gone id := by
  have hne : s.get c ≠ h := (set_fst_iff s c h).mp hchange
  rw [set_of_ne hne]
  intro u hu hnumber
  obtain ⟨t, ht, rfl⟩ := List.mem_map.mp hu
  obtain ⟨hmem, hopen⟩ := List.mem_filter.mp ht
  have hclosed := hs t hmem hnumber
  rw [hclosed] at hopen
  cases hopen

/-- After the next change nobody is there who does not listen. -/
theorem Deaf.after {id : Nat} (hs : s.Deaf id) (hid : id < s.nextId) {c : ChannelId}
    {h : ChannelHealth} (hchange : (Op.set c h, Answer.changed true) ∈ s.transcript ops) :
    (s.after ops).Gone id := by
  induction ops generalizing s with
  | nil => cases hchange
  | cons op ops ih =>
    have hle := (nextId_perform s op).1
    rcases List.mem_cons.mp hchange with heq | hlater
    · obtain ⟨rfl, hanswer⟩ := Prod.mk.inj heq
      have hset : (s.set c h).1 = true := by
        have hyes : Answer.changed (s.set c h).1 = .changed true := hanswer.symm
        simpa using hyes
      have hgone : (s.perform (.set c h)).2.Gone id := hs.set hset
      exact hgone.after (by omega) ops
    · exact ih (hs.perform hid op) (by omega) hlater

/-! ### The snapshot -/

/-- Operations keep the order of the entries. -/
theorem Ascending.perform (hs : Ascending s.entries) (op : Op) :
    Ascending (s.perform op).2.entries := by
  cases op with
  | register c =>
    show Ascending (s.register c).entries
    unfold register
    rcases lookup? c s.entries with _ | g
    · exact hs.insert c .unknown
    · exact hs
  | set c h =>
    show Ascending (s.set c h).2.entries
    by_cases heq : s.get c = h
    · rw [set_of_eq heq]
      exact hs
    · rw [set_of_ne heq]
      exact hs.insert c h
  | subscribe => exact hs
  | drop id => exact hs

theorem Ascending.after (hs : Ascending s.entries) (ops : List Op) :
    Ascending (s.after ops).entries := by
  induction ops generalizing s with
  | nil => exact hs
  | cons op ops ih => exact ih (hs.perform op)

/-- What is found has an entry. -/
theorem mem_keys_of_lookup? {c : ChannelId} {g : ChannelHealth}
    {es : List (ChannelId × ChannelHealth)} (h : lookup? c es = some g) :
    c ∈ es.map Prod.fst := by
  induction es with
  | nil => cases h
  | cons e es ih =>
    obtain ⟨b, k⟩ := e
    by_cases hb : b = c
    · simp [hb]
    · simp only [lookup?, if_neg hb] at h
      exact List.mem_cons_of_mem _ (ih h)

/-- An operation makes a channel known: it was made known outright, or its health was changed. -/
def Names (c : ChannelId) (e : Op × Answer) : Prop :=
  e.1 = .register c ∨ ∃ h, e = (.set c h, .changed true)

/-- The channels that have an entry after an operation. -/
theorem mem_keys_perform (s : HealthStore) (op : Op) (c : ChannelId) :
    c ∈ (s.perform op).2.entries.map Prod.fst ↔
      c ∈ s.entries.map Prod.fst ∨ Names c (op, (s.perform op).1) := by
  cases op with
  | register d =>
    have hnames : Names c (.register d, (s.perform (.register d)).1) ↔ c = d := by
      simp [Names, perform, eq_comm]
    rw [hnames]
    show c ∈ (s.register d).entries.map Prod.fst ↔ _
    unfold register
    rcases hd : lookup? d s.entries with _ | g
    · rw [mem_keys_insert]
      exact Or.comm
    · constructor
      · exact Or.inl
      · rintro (hc | rfl)
        · exact hc
        · exact mem_keys_of_lookup? hd
  | set d h =>
    show c ∈ (s.set d h).2.entries.map Prod.fst ↔
      _ ∨ Names c (.set d h, .changed (s.set d h).1)
    by_cases heq : s.get d = h
    · simp [set_of_eq heq, Names]
    · simp [set_of_ne heq, Names, mem_keys_insert, eq_comm, or_comm]
  | subscribe => simp [perform, subscribe, Names]
  | drop id => simp [perform, unsubscribe, Names]

/-- The channels that have an entry are those that were made known. -/
theorem mem_keys_after (s : HealthStore) (ops : List Op) (c : ChannelId) :
    c ∈ (s.after ops).entries.map Prod.fst ↔
      c ∈ s.entries.map Prod.fst ∨ ∃ e ∈ s.transcript ops, Names c e := by
  induction ops generalizing s with
  | nil => simp [after, transcript]
  | cons op ops ih =>
    unfold after transcript
    rw [ih, mem_keys_perform, or_assoc]
    simp

/-- The channels that some operations make known. -/
theorem exists_names_iff (s : HealthStore) (ops : List Op) (c : ChannelId) :
    (∃ e ∈ s.transcript ops, Names c e) ↔
      .register c ∈ ops ∨ ∃ h, (.set c h, .changed true) ∈ s.transcript ops := by
  constructor
  · rintro ⟨e, he, hregister | ⟨h, rfl⟩⟩
    · left
      rw [← map_fst_transcript s ops, ← hregister]
      exact List.mem_map_of_mem he
    · exact Or.inr ⟨h, he⟩
  · rintro (hregister | ⟨h, hset⟩)
    · rw [← map_fst_transcript s ops] at hregister
      obtain ⟨e, he, heq⟩ := List.mem_map.mp hregister
      exact ⟨e, he, Or.inl heq⟩
    · exact ⟨_, hset, Or.inr ⟨h, rfl⟩⟩

/-! ### Histories -/

/-- What a subscriber `received` of what happened `later` in the store that it came to. -/
structure Follows (start : HealthStore) (later : List Op) (received : List HealthChange) :
    Prop where
  /-- It was told of each change once, in order. -/
  onceEach : received.map (fun e => (e.channel, e.current)) =
    (start.transcript later).filterMap change?
  /-- What it was told of is a change. -/
  differs : ∀ e ∈ received, e.previous ≠ e.current
  /-- Each change starts from what the earlier ones led to. -/
  previous : ∀ earlier e rest, received = earlier ++ e :: rest →
    e.previous = replay start.get earlier e.channel
  /-- All of them lead to what the store has now. -/
  present : ∀ c, replay start.get received c = (start.after later).get c

/-- What there is to tell is all that a subscriber needs to know. -/
theorem follows_announcements (start : HealthStore) (later : List Op) :
    Follows start later (start.announcements later) := by
  refine ⟨announcements_map start later, ?_, ?_, ?_⟩
  · intro e he
    obtain ⟨earlier, rest, hsplit⟩ := List.append_of_mem he
    exact (previous_of_announcements hsplit).2
  · intro earlier e rest hsplit
    exact (previous_of_announcements hsplit).1
  · intro c
    rw [replay_announcements]

/-- Whoever subscribes and goes on listening is a subscriber, and follows the store. -/
theorem Numbered.follows (hs : s.Numbered) {later : List Op} (hlistens : .drop s.nextId ∉ later) :
    (∃ u ∈ (s.subscribe.2.after later).subscribers, u.id = s.nextId ∧ u.isOpen = true) ∧
      Follows s.subscribe.2 later ((s.subscribe.2.after later).inbox s.nextId) := by
  have hfound := subscriber_after (subscriber?_subscribe hs) rfl hlistens
  have hinbox : (s.subscribe.2.after later).inbox s.nextId =
      s.subscribe.2.announcements later := by
    unfold inbox
    rw [show (s.subscribe.2.after later).subscribers.find? (·.id == s.nextId) = _ from hfound]
    exact List.nil_append _
  constructor
  · exact ⟨_, List.mem_of_find?_eq_some hfound, rfl, rfl⟩
  · rw [hinbox]
    exact follows_announcements _ later

/-- Nobody listens any more under the number of someone who has stopped. -/
theorem deaf_unsubscribe (s : HealthStore) (id : Nat) : (s.unsubscribe id).Deaf id := by
  intro u hu hnumber
  obtain ⟨t, -, rfl⟩ := List.mem_map.mp hu
  by_cases ht : t.id = id
  · rw [if_pos ht]
  · rw [if_neg ht] at hnumber
    exact absurd hnumber ht

/-- Storing a health that is no change leaves everything as it is. -/
theorem set_of_unchanged {c : ChannelId} {h : ChannelHealth} (hsame : (s.set c h).1 = false) :
    (s.set c h).2 = s := by
  by_cases heq : s.get c = h
  · rw [set_of_eq heq]
  · rw [(set_fst_iff s c h).mpr heq] at hsame
    cases hsame

/-- An operation in a history, and what comes after it. -/
theorem after_of_split {before later : List Op} {op : Op} (hops : ops = before ++ op :: later) :
    s.after ops = ((s.after before).perform op).2.after later := by
  rw [hops, after_append]
  rfl

/-- **Who listens can rebuild the store.**  Let some operations be carried out on a new store.
Whoever subscribed in their course and has not stopped listening is still a subscriber and was told
what it takes to follow the store.  Whoever has stopped is no subscriber any more once a health was
changed.  Storing a health is a change exactly if the channel has another one, and otherwise leaves
everything as it is.  The snapshot lists the channels that were made known or whose health was
changed, in the order of their names and each once, with the health that they have. -/
theorem subscribers_replay_the_store (ops : List Op) :
    let s := after {} ops
    (∀ before later, ops = before ++ .subscribe :: later →
      let (id, start) := (after {} before).subscribe
      .drop id ∉ later →
        (∃ u ∈ s.subscribers, u.id = id ∧ u.isOpen = true) ∧ Follows start later (s.inbox id)) ∧
    (∀ before id later, ops = before ++ .drop id :: later → id < (after {} before).nextId →
      (∃ c h, (.set c h, .changed true) ∈ (after {} (before ++ [.drop id])).transcript later) →
        ∀ u ∈ s.subscribers, u.id ≠ id) ∧
    (∀ c h, ((s.set c h).1 = true ↔ s.get c ≠ h) ∧
      ((s.set c h).1 = false → (s.set c h).2 = s)) ∧
    ((s.snapshot.map Prod.fst).Pairwise fun c d => c.path < d.path) ∧
    (∀ c, c ∈ s.snapshot.map Prod.fst ↔
      .register c ∈ ops ∨ ∃ h, (.set c h, .changed true) ∈ transcript {} ops) ∧
    ∀ e ∈ s.snapshot, s.get e.1 = e.2 := by
  intro s
  have hordered : Ascending s.entries := Ascending.after (s := {}) List.Pairwise.nil ops
  have hnumbered (before : List Op) : (after {} before).Numbered :=
    Numbered.after (s := {}) (fun _ hu => by cases hu) before
  refine ⟨?_, ?_, ?_, hordered, ?_, ?_⟩
  · intro before later hops hlistens
    have hs : s = (after {} before).subscribe.2.after later := after_of_split hops
    rw [hs]
    exact (hnumbered before).follows hlistens
  · intro before id later hops hid hchange
    obtain ⟨c, h, hchange⟩ := hchange
    have hdrop : after {} (before ++ [.drop id]) = (after {} before).unsubscribe id :=
      after_append {} before [.drop id]
    have hs : s = ((after {} before).unsubscribe id).after later := after_of_split hops
    rw [hdrop] at hchange
    rw [hs]
    exact (deaf_unsubscribe _ id).after hid hchange
  · intro c h
    exact ⟨set_fst_iff s c h, set_of_unchanged⟩
  · intro c
    show c ∈ (after {} ops).entries.map Prod.fst ↔ _
    rw [mem_keys_after, exists_names_iff]
    simp
  · intro e he
    show (lookup? e.1 s.entries).getD .unknown = e.2
    rw [lookup?_of_mem hordered he]
    rfl

end HealthStore

end Lookout
