import Lookout.CommandLine.Help
import Lookout.Proofs.Results
/-!
# Options that are not given

What an option is worth that no argument gives.  Whatever is read from a command line and from the
environment for other options leaves it alone, so it has its default in the end, if no variable of
the environment stands in for it either (`Grammar.value?_of_not_gives`).
-/

namespace Lookout.CommandLine

/-- Some argument gives the option of a name. -/
def Gives (arguments : List String) (name : String) : Prop :=
  ∃ a ∈ arguments, ∃ value, Word.of a = .long name value

namespace Values

variable {v v' : Values} {p : Parameter} {name value : String}

/-- An option has the value that was given last. -/
theorem value?_insert : (v.insert p.name value).value? name =
    if p.name = name then some value else v.value? name := by
  unfold insert value?
  rw [List.lookup_cons]
  by_cases h : p.name = name
  · simp [h]
  · rw [if_neg h, beq_false_of_ne (Ne.symm h)]

/-- Giving an option a value leaves the others alone. -/
theorem value?_give (h : v.give p value = .ok v') (hne : p.name ≠ name) :
    v'.value? name = v.value? name := by
  unfold give at h
  split at h
  · cases h
  split at h
  · cases h
    rw [value?_insert, if_neg hne]
  · cases h

end Values

namespace Grammar

open Results

variable {g : Grammar} {env : Config.Environment} {v v' : Values} {p : Parameter}
  {name value argument : String} {arguments : List String}

/-- An option that an argument asks for is named by it. -/
theorem gives_of_request (h : (∃ value, g.request argument = .ok (.give p value)) ∨
    g.request argument = .ok (.await p)) : ∃ value, Word.of argument = .long p.name value := by
  unfold request at h
  split at h
  case _ => simp at h
  case _ => simp at h
  case _ =>
    split at h
    · simp at h
    · split at h <;> simp at h
  case _ longName longValue hword =>
    split at h
    case _ =>
      unfold standard at h
      split at h
      · split at h <;> simp at h
      · simp at h
    case _ found hfound =>
      have hname : found.name = longName := by simpa using List.find?_some hfound
      have heq : found = p := by
        split at h
        · simpa using h
        · simp at h
        · simpa using h
        · simpa using h
      exact ⟨longValue, by rw [hword, ← heq, hname]⟩

/-- An option that no argument gives keeps the value that it has. -/
theorem value?_readArguments (h : g.readArguments v arguments = .ok v')
    (hnot : ¬Gives arguments name) : v'.value? name = v.value? name := by
  -- the option of another name, whether its value stands behind it or comes next
  have hother {a : String} {as : List String} {p : Parameter}
      (hask : (∃ value, g.request a = .ok (.give p value)) ∨ g.request a = .ok (.await p))
      (hnot : ¬Gives (a :: as) name) : p.name ≠ name := by
    rintro rfl
    exact hnot ⟨a, List.mem_cons_self, gives_of_request hask⟩
  have hlater {a : String} {as : List String} (hnot : ¬Gives (a :: as) name) :
      ¬Gives as name := by
    rintro ⟨b, hb, hword⟩
    exact hnot ⟨b, List.mem_cons_of_mem a hb, hword⟩
  fun_induction g.readArguments v arguments with
  | case1 | case3 =>
    cases h
    rfl
  | case2 | case4 | case5 | case7 | case8 | case10 => cases h
  | case6 v a as p value hask w hgive ih =>
    rw [ih h (hlater hnot), Values.value?_give hgive (hother (Or.inl ⟨_, hask⟩) hnot)]
  | case9 v a p hask b as hplain w hgive ih =>
    rw [ih h (hlater (hlater hnot)), Values.value?_give hgive (hother (Or.inr hask) hnot)]

/-- An option without a variable keeps the value that it has. -/
theorem value?_fillFromEnvironment (h : fillFromEnvironment env v p = .ok v')
    (hname : p.name = name → p.envName = none) : v'.value? name = v.value? name := by
  unfold fillFromEnvironment at h
  split at h
  · cases h
    rfl
  case _ variableName hvariable =>
    have hne : p.name ≠ name := by
      intro heq
      rw [hname heq] at hvariable
      cases hvariable
    split at h
    · cases h
      rfl
    split at h
    · cases h
    split at h
    · cases h
      rfl
    · exact Values.value?_give h hne

theorem value?_foldlM_environment {ps : List Parameter}
    (h : ps.foldlM (fillFromEnvironment env) v = .ok v')
    (hname : ∀ p ∈ ps, p.name = name → p.envName = none) : v'.value? name = v.value? name := by
  induction ps generalizing v with
  | nil =>
    cases h
    rfl
  | cons p ps ih =>
    rw [List.foldlM_cons] at h
    obtain ⟨w, hp, hps⟩ := bind_eq_ok_iff.mp h
    rw [ih hps fun q hq => hname q (List.mem_cons_of_mem p hq),
      value?_fillFromEnvironment hp (hname p List.mem_cons_self)]

/-- The first default among those of the options of a name. -/
def firstDefault (ps : List Parameter) (name : String) : Option String :=
  ps.findSome? fun p => if p.name = name then p.fallback else none

/-- An option has the value that it has, and else its default. -/
theorem value?_foldl_default (ps : List Parameter) (v : Values) :
    (ps.foldl fillFromDefault v).value? name = (v.value? name).or (firstDefault ps name) := by
  induction ps generalizing v with
  | nil => simp [firstDefault]
  | cons p ps ih =>
    rw [List.foldl_cons, ih]
    unfold fillFromDefault firstDefault Values.has
    rw [List.findSome?_cons]
    by_cases hname : p.name = name
    · subst hname
      rcases hfallback : p.fallback with _ | value
      · simp
      · rcases hvalue : v.value? p.name with _ | other
        · simp [Values.value?_insert]
        · simp [hvalue]
    · rcases hfallback : p.fallback with _ | value
      · simp [hname]
      · rcases hvalue : v.value? p.name with _ | other
        · simp [Values.value?_insert, hname]
        · simp [hname]

/-- **An option that is not given, and that no variable stands in for, has its default.** -/
theorem value?_of_not_gives (h : g.read env arguments = .ok v) (hnot : ¬Gives arguments name)
    (hname : ∀ p ∈ g.parameters, p.name = name → p.envName = none) :
    v.value? name = firstDefault g.parameters name := by
  obtain ⟨read, hread, h⟩ := bind_eq_ok_iff.mp h
  obtain ⟨filled, hfilled, h⟩ := bind_eq_ok_iff.mp h
  cases h
  rw [value?_foldl_default, value?_foldlM_environment hfilled hname,
    value?_readArguments hread hnot]
  rfl

end Grammar

end Lookout.CommandLine
