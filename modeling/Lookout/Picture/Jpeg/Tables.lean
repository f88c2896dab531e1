/-!
# What JPEG files agree on

Coefficients are written along diagonals; how finely each is kept, and with which words, is up to
the file.  The tables here are those of the standard.
-/

namespace Lookout.Jpeg

/-- The places of a block of 8 by 8 in the order in which they are written. -/
def diagonal : Array Nat := #[
  0, 1, 8, 16, 9, 2, 3, 10, 17, 24, 32, 25, 18, 11, 4, 5,
  12, 19, 26, 33, 40, 48, 41, 34, 27, 20, 13, 6, 7, 14, 21, 28,
  35, 42, 49, 56, 57, 50, 43, 36, 29, 22, 15, 23, 30, 37, 44, 51,
  58, 59, 52, 45, 38, 31, 39, 46, 53, 60, 61, 54, 47, 55, 62, 63]

/-- The steps in which coefficients are kept, row by row. -/
def steps : Array Nat := #[
  8, 6, 5, 8, 12, 20, 26, 31, 6, 6, 7, 10, 13, 29, 30, 28,
  7, 7, 8, 12, 20, 29, 35, 28, 7, 9, 11, 15, 26, 44, 40, 31,
  9, 11, 19, 28, 34, 55, 52, 39, 12, 18, 28, 32, 41, 52, 57, 46,
  25, 32, 39, 44, 52, 61, 60, 51, 36, 46, 48, 49, 56, 50, 52, 50]

/-- How many words of each length there are for the first coefficient of a block. -/
def firstCounts : List Nat := [0, 1, 5, 1, 1, 1, 1, 1, 1, 0, 0, 0, 0, 0, 0, 0]

/-- The symbols for the first coefficient of a block. -/
def firstSymbols : List Nat := [0, 1, 2, 3, 4, 5, 6, 7, 8, 9, 10, 11]

/-- How many words of each length there are for the other coefficients. -/
def otherCounts : List Nat := [0, 2, 1, 3, 3, 2, 4, 3, 5, 5, 4, 4, 0, 0, 1, 125]

/-- The symbols for the other coefficients. -/
def otherSymbols : List Nat := [
  0x01, 0x02, 0x03, 0x00, 0x04, 0x11, 0x05, 0x12, 0x21, 0x31, 0x41, 0x06, 0x13, 0x51, 0x61, 0x07,
  0x22, 0x71, 0x14, 0x32, 0x81, 0x91, 0xA1, 0x08, 0x23, 0x42, 0xB1, 0xC1, 0x15, 0x52, 0xD1, 0xF0,
  0x24, 0x33, 0x62, 0x72, 0x82, 0x09, 0x0A, 0x16, 0x17, 0x18, 0x19, 0x1A, 0x25, 0x26, 0x27, 0x28,
  0x29, 0x2A, 0x34, 0x35, 0x36, 0x37, 0x38, 0x39, 0x3A, 0x43, 0x44, 0x45, 0x46, 0x47, 0x48, 0x49,
  0x4A, 0x53, 0x54, 0x55, 0x56, 0x57, 0x58, 0x59, 0x5A, 0x63, 0x64, 0x65, 0x66, 0x67, 0x68, 0x69,
  0x6A, 0x73, 0x74, 0x75, 0x76, 0x77, 0x78, 0x79, 0x7A, 0x83, 0x84, 0x85, 0x86, 0x87, 0x88, 0x89,
  0x8A, 0x92, 0x93, 0x94, 0x95, 0x96, 0x97, 0x98, 0x99, 0x9A, 0xA2, 0xA3, 0xA4, 0xA5, 0xA6, 0xA7,
  0xA8, 0xA9, 0xAA, 0xB2, 0xB3, 0xB4, 0xB5, 0xB6, 0xB7, 0xB8, 0xB9, 0xBA, 0xC2, 0xC3, 0xC4, 0xC5,
  0xC6, 0xC7, 0xC8, 0xC9, 0xCA, 0xD2, 0xD3, 0xD4, 0xD5, 0xD6, 0xD7, 0xD8, 0xD9, 0xDA, 0xE1, 0xE2,
  0xE3, 0xE4, 0xE5, 0xE6, 0xE7, 0xE8, 0xE9, 0xEA, 0xF1, 0xF2, 0xF3, 0xF4, 0xF5, 0xF6, 0xF7, 0xF8,
  0xF9, 0xFA]

/-- The parts of `4096` that the eight waves of a block have at its eight places; row `u` is wave
`u`. -/
def waves : Array Int := #[
  1448, 1448, 1448, 1448, 1448, 1448, 1448, 1448,
  2009, 1703, 1138, 400, -400, -1138, -1703, -2009,
  1892, 784, -784, -1892, -1892, -784, 784, 1892,
  1703, -400, -2009, -1138, 1138, 2009, 400, -1703,
  1448, -1448, -1448, 1448, 1448, -1448, -1448, 1448,
  1138, -2009, 400, 1703, -1703, -400, 2009, -1138,
  784, -1892, 1892, -784, -784, 1892, -1892, 784,
  400, -1138, 1703, -2009, 2009, -1703, 1138, -400]

/-- Sum over eight terms. -/
def sum8 (f : Nat → Int) : Int := f 0 + f 1 + f 2 + f 3 + f 4 + f 5 + f 6 + f 7

/-- The wave `u` at place `x`. -/
def wave (u x : Nat) : Int := waves[u * 8 + x]?.getD 0

/-- An entry of a block. -/
def entry (block : Array Int) (x y : Nat) : Int := block[y * 8 + x]?.getD 0

/-- A block with the given entries. -/
def blockOf (f : Nat → Nat → Int) : Array Int := Array.ofFn fun i : Fin 64 => f (i.val % 8) (i.val / 8)

/-- A quotient, to the nearest integer. -/
def roundQuot (n d : Int) : Int := (2 * n + d).fdiv (2 * d)

/-- The amounts of the waves in a block. -/
def toWaves (block : Array Int) : Array Int :=
  let rows := blockOf fun u y => sum8 fun x => wave u x * entry block x y
  blockOf fun u v => roundQuot (sum8 fun y => wave v y * entry rows u y) 16777216

/-- The block with the given amounts of the waves. -/
def ofWaves (amounts : Array Int) : Array Int :=
  let rows := blockOf fun x v => sum8 fun u => wave u x * entry amounts u v
  blockOf fun x y => roundQuot (sum8 fun v => wave v y * entry rows x v) 16777216

end Lookout.Jpeg
