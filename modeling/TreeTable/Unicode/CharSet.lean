/-! # Sets of characters

A set is a list of ranges of code points in ascending order, no two of which touch. All
operations keep that form, so membership can stop at the first range beyond a character.
-/

namespace TreeTable.Unicode

/-- Ascending ranges of code points, both ends included. -/
structure CharSet where
  ranges : List (Nat × Nat)
  deriving DecidableEq

namespace CharSet

/-- The greatest code point. -/
def top : Nat := 0x10FFFF

def empty : CharSet := ⟨[]⟩
def full : CharSet := ⟨[(0, top)]⟩
def ascii : CharSet := ⟨[(0, 0x7F)]⟩
def range (lo hi : Nat) : CharSet := ⟨[(lo, hi)]⟩
def single (c : Char) : CharSet := range c.toNat c.toNat

def isEmpty (s : CharSet) : Bool := s.ranges.isEmpty

def containsIn (n : Nat) : List (Nat × Nat) → Bool
  | [] => false
  | (lo, hi) :: rest => if n < lo then false else if n ≤ hi then true else containsIn n rest

def containsCode (s : CharSet) (n : Nat) : Bool := containsIn n s.ranges

def contains (s : CharSet) (c : Char) : Bool := s.containsCode c.toNat

/-- Puts two ascending lists together in ascending order. -/
def mergeRanges : List (Nat × Nat) → List (Nat × Nat) → List (Nat × Nat)
  | [], bs => bs
  | a :: as, bs =>
      let (before, after) := bs.span (·.1 < a.1)
      before ++ a :: mergeRanges as after

/-- Joins the ranges that overlap or touch, from the range `lo`–`hi` on. -/
def joinFrom (lo hi : Nat) : List (Nat × Nat) → List (Nat × Nat)
  | [] => [(lo, hi)]
  | (l, h) :: rest =>
      if l ≤ hi + 1 then joinFrom lo (max hi h) rest else (lo, hi) :: joinFrom l h rest

def joinRanges : List (Nat × Nat) → List (Nat × Nat)
  | [] => []
  | (lo, hi) :: rest => joinFrom lo hi rest

def union (s t : CharSet) : CharSet := ⟨joinRanges (mergeRanges s.ranges t.ranges)⟩

def unions (sets : List CharSet) : CharSet := sets.foldl union empty

/-- The gaps between ranges, from `next` up to `last`. -/
def gaps (next last : Nat) : List (Nat × Nat) → List (Nat × Nat)
  | [] => if next ≤ last then [(next, last)] else []
  | (lo, hi) :: rest =>
      if next < lo then (next, lo - 1) :: gaps (hi + 1) last rest else gaps (hi + 1) last rest

/-- The code points up to `last` that are not in the set. -/
def complement (s : CharSet) (last : Nat := top) : CharSet := ⟨gaps 0 last s.ranges⟩

def inter (s t : CharSet) : CharSet := (s.complement.union t.complement).complement

def diff (s t : CharSet) : CharSet := s.inter t.complement

def symmDiff (s t : CharSet) : CharSet := (s.union t).diff (s.inter t)

/-- Whether all members are ASCII. -/
def isAscii (s : CharSet) : Bool := s.ranges.all (·.2 < 0x80)

/-- Whether some member lies between `lo` and `hi`. -/
def meets (s : CharSet) (lo hi : Nat) : Bool := s.ranges.any fun r => r.1 ≤ hi && lo ≤ r.2

/-- The value of a hexadecimal number without letters of lower case. -/
def hexValue (cs : List Char) : Nat :=
  cs.foldl (fun n c => n * 16 + (if c.isDigit then c.toNat - 48 else c.toNat - 55)) 0

/-- A range written as its ends with a hyphen between them, or as its only member. -/
def rangeOfChars (cs : List Char) : Nat × Nat :=
  match cs.span (· ≠ '-') with
  | (lo, []) => (hexValue lo, hexValue lo)
  | (lo, _ :: hi) => (hexValue lo, hexValue hi)

/-- The words of a text. Blanks and line breaks separate them. -/
def words (cs : List Char) : List (List Char) := go [] cs
where
  /-- The word that has been begun, its last character first, and the words after it. -/
  go : List Char → List Char → List (List Char)
    | [], [] => []
    | begun, [] => [begun.reverse]
    | begun, c :: rest =>
        if c = ' ' ∨ c = '\n' then
          if begun.isEmpty then go [] rest else begun.reverse :: go [] rest
        else go (c :: begun) rest

/-- The set of ascending ranges that a table lists. -/
def ofTable (table : String) : CharSet := ⟨(words table.toList).map rangeOfChars⟩

end CharSet

end TreeTable.Unicode
