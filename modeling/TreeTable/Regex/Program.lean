import TreeTable.Regex.Node

/-! # Matching programs

An expression becomes a program for a machine that follows all its threads at once. The
program of an expression is laid out before the instruction that comes after it, so each
instruction names its successors. What can match the empty text is repeated through a loop
that is entered at its end, so that a second empty round is never preferred over leaving.
-/

namespace TreeTable.Regex

open Unicode

inductive Instruction where
  | one (set : CharSet) (next : Nat)
  | check (a : Anchor) (next : Nat)
  | save (slot : Nat) (next : Nat)
  /-- Two ways on, the first preferred. -/
  | fork (first second : Nat)
  | done

/-- The instructions laid out so far. -/
abbrev Program := Array Instruction

namespace Program

/-- Adds an instruction and gives its place. -/
def add (p : Program) (i : Instruction) : Nat × Program := (p.size, p.push i)

/-- A fork that goes into a loop body or past it. -/
def loopFork (greedy : Bool) (body past : Nat) : Instruction :=
  if greedy then .fork body past else .fork past body

/-- One round and any number of further rounds of `body`. The fork after a round is laid
out first and is completed when the place of the body is known. -/
def addPlus (p : Program) (greedy : Bool) (next : Nat)
    (body : Nat → Program → Nat × Program) : Nat × Nat × Program :=
  let (fork, p) := p.add .done
  let (entry, p) := body fork p
  (entry, fork, p.set! fork (loopFork greedy entry next))

/-- At most `count` rounds of `body`, every one of which may be left out with all that
follow it. -/
def addOptional (greedy : Bool) (past : Nat) (body : Nat → Program → Nat × Program) :
    Nat → Nat → Program → Nat × Program
  | 0, next, p => (next, p)
  | count + 1, next, p =>
      let (entry, p) := addOptional greedy past body count next p |> fun (rest, p) => body rest p
      p.add (loopFork greedy entry past)

/-- Exactly `count` rounds of `body`. -/
def addRounds (body : Nat → Program → Nat × Program) :
    Nat → Nat → Program → Nat × Program
  | 0, next, p => (next, p)
  | count + 1, next, p =>
      let (rest, p) := addRounds body count next p
      body rest p

/-- Any number of rounds, at least `min`, of a body that may match the empty text when
`maybeEmpty`. -/
def addMany (greedy maybeEmpty : Bool) (min next : Nat) (p : Program)
    (body : Nat → Program → Nat × Program) : Nat × Program :=
  match min with
  | 0 =>
      let (entry, fork, p) := p.addPlus greedy next body
      if maybeEmpty then p.add (loopFork greedy entry next) else (fork, p)
  | rounds + 1 =>
      let (entry, _, p) := p.addPlus greedy next body
      addRounds body rounds entry p

end Program

namespace Node

/-- Lays out an expression that goes on at `next`, and gives the place where it starts. -/
def layOut : Node → Nat → Program → Nat × Program
  | empty, next, p => (next, p)
  | one set, next, p => p.add (.one set next)
  | anchor a, next, p => p.add (.check a next)
  | group index body, next, p =>
      let (close, p) := p.add (.save (2 * index + 1) next)
      let (entry, p) := body.layOut close p
      p.add (.save (2 * index) entry)
  | many body min none greedy, next, p =>
      let maybeEmpty := body.minLength.all (· = 0)
      Program.addMany greedy maybeEmpty min next p body.layOut
  | many body min (some max) greedy, next, p =>
      let (entry, p) := Program.addOptional greedy next body.layOut (max - min) next p
      Program.addRounds body.layOut min entry p
  | seq first second, next, p =>
      let (middle, p) := second.layOut next p
      first.layOut middle p
  | alt first second, next, p =>
      let (right, p) := second.layOut next p
      let (left, p) := first.layOut next p
      p.add (.fork left right)

/-- How many instructions on bytes an expression takes, roughly: a set takes one for each
kind of byte sequence in it. -/
def weight : Node → Nat
  | empty => 1
  | one set => if set.isAscii then 1 else 2 * set.ranges.length + 2
  | anchor _ => 1
  | group _ body => body.weight + 2
  | many body min none _ => body.weight * Nat.max min 1 + 1
  | many body min (some max) _ => (body.weight + 1) * Nat.max min max + 1
  | seq first second => first.weight + second.weight
  | alt first second => first.weight + second.weight + 1

end Node

end TreeTable.Regex
