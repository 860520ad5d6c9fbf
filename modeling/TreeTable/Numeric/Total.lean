import TreeTable.Numeric.DecimalOfFloat
import TreeTable.Numeric.DecimalText

/-! # Running totals

A total is an exact decimal for as long as decimals can hold it, and a double from then
on. A whole total that fits in 64 bits is given back as an integer.
-/

namespace TreeTable.Numeric

/-- A number that is being summed up. -/
inductive Total where
  | exact (d : Decimal)
  | approximate (x : Binary64)
  deriving DecidableEq

namespace Total

def zero : Total := exact .zero

instance : Inhabited Total := ⟨zero⟩

def ofInt64 (n : Int64) : Total := exact (Decimal.ofInt64 n)

/-- The decimal that stands for a double, or the double itself when there is none. -/
def ofBinary64 (x : Binary64) : Total :=
  match Decimal.ofBinary64? x with
  | some d => exact d
  | none => approximate x

/-- The number that a text holds, read as a decimal if possible and as a double otherwise. -/
def ofText? (text : String) : Option Total :=
  match Decimal.ofText? text with
  | some d => some (exact d)
  | none => (Binary64.ofText? text).map ofBinary64

def toBinary64 : Total → Binary64
  | exact d => d.toBinary64
  | approximate x => x

/-- The sum, exact when both sides and the result are decimals. -/
def add (a b : Total) : Total :=
  let rounded := approximate (a.toBinary64.add b.toBinary64)
  match a, b with
  | exact c, exact d =>
      match c.add? d with
      | some sum => exact sum
      | none => rounded
  | _, _ => rounded

/-- The sum of a start and of all terms, from the first to the last. -/
def sum (start : Total) (terms : List Total) : Total := terms.foldl add start

/-- The whole number that a total is, when it is one of 64 bits. -/
def toInt64? : Total → Option Int64
  | exact d => d.toInt64?
  | approximate _ => none

/-- The mean of `count` terms with this sum. -/
def mean (total : Total) (count : Nat) : Binary64 :=
  let quotient? := match total with
    | exact d => d.divNat? count
    | approximate _ => none
  match quotient? with
  | some d => d.toBinary64
  | none => total.toBinary64.div (Binary64.ofNat count)

/-- The digits of a total, all of them in place. -/
def render : Total → String
  | exact d => d.render
  | approximate x => x.render .plain

theorem add_exact {c d sum : Decimal} (h : c.add? d = some sum) :
    (exact c).add (exact d) = exact sum := by
  simp [add, h]

@[simp] theorem sum_nil (start : Total) : sum start [] = start := rfl

end Total

end TreeTable.Numeric
