import TreeTable.Regex.Program
import TreeTable.Unicode.Classes

/-! # Searching

The machine reads a text once. At every place it keeps the threads that are still alive,
the preferred one first, no instruction twice. A thread remembers where groups began and
ended. The first thread that is done wins over all behind it, so the leftmost match is
found, and among the matches there the preferred one.
-/

namespace TreeTable.Regex

open Unicode

/-- Places saved by a thread, the latest first. -/
abbrev Saves := List (Nat × Nat)

/-- A place in a text: the characters before and behind it. -/
structure Place where
  index : Nat
  before : Option Char
  after : List Char

namespace Place

def start (text : List Char) : Place := ⟨0, none, text⟩

/-- The place one character further. -/
def next? (p : Place) : Option Place :=
  match p.after with
  | [] => none
  | c :: rest => some ⟨p.index + 1, some c, rest⟩

end Place

def isWord (ascii : Bool) (c : Option Char) : Bool :=
  c.any fun c => if ascii then CharSet.asciiWord.contains c else CharSet.word.contains c

def WordPlace.holds (w : WordPlace) (before after : Bool) : Bool :=
  match w with
  | edge => before != after
  | noEdge => before == after
  | start => !before && after
  | finish => before && !after
  | afterNoWord => !before
  | beforeNoWord => !after

/-- Whether a condition holds at a place. -/
def Anchor.holds (a : Anchor) (p : Place) : Bool :=
  let after := p.after.head?
  match a with
  | textStart => p.before.isNone
  | textEnd => after.isNone
  | lineStart false => p.before.all (· == '\n')
  | lineEnd false => after.all (· == '\n')
  | lineStart true =>
      p.before.all fun c => c == '\n' || (c == '\r' && after != some '\n')
  | lineEnd true =>
      after.all fun c => c == '\r' || (c == '\n' && p.before != some '\r')
  | word w ascii => w.holds (isWord ascii p.before) (isWord ascii after)

/-- A thread: the instruction it stands at and the places it saved. -/
structure Thread where
  here : Nat
  saves : Saves

/-- Follows threads up to instructions that read a character or are done. `seen` holds the
instructions reached so far, one bit each. -/
def settle (program : Program) (place : Place) :
    Nat → Nat → List Thread → List Thread × Nat
  | 0, seen, _ => ([], seen)
  | _, seen, [] => ([], seen)
  | fuel + 1, seen, thread :: rest =>
      if seen.testBit thread.here then settle program place fuel seen rest
      else
        let seen := seen ||| (1 <<< thread.here)
        match program[thread.here]? with
        | none => settle program place fuel seen rest
        | some (.fork first second) =>
            settle program place fuel seen
              (⟨first, thread.saves⟩ :: ⟨second, thread.saves⟩ :: rest)
        | some (.check a next) =>
            if a.holds place then settle program place fuel seen (⟨next, thread.saves⟩ :: rest)
            else settle program place fuel seen rest
        | some (.save slot next) =>
            settle program place fuel seen (⟨next, (slot, place.index) :: thread.saves⟩ :: rest)
        | some _ =>
            let (settled, seen) := settle program place fuel seen rest
            (thread :: settled, seen)

/-- The threads before the first one that is done, and what that one saved. -/
def splitDone (program : Program) : List Thread → List Thread × Option Saves
  | [] => ([], none)
  | thread :: rest =>
      match program[thread.here]? with
      | some .done => ([], some thread.saves)
      | _ =>
          let (before, saves) := splitDone program rest
          (thread :: before, saves)

/-- The threads that can read a character. -/
def readChar (program : Program) (c : Char) (threads : List Thread) : List Thread :=
  threads.filterMap fun (thread : Thread) =>
    match program[thread.here]? with
    | some (.one set next) => if set.contains c then some ⟨next, thread.saves⟩ else none
    | _ => none

/-- Runs the machine from a place on. Until a match is found a new thread starts at every
place, behind all others. -/
def run (program : Program) (entry : Nat) (before : Option Char) :
    Nat → List Char → List Thread → Option Saves → Option Saves
  | index, after, threads, found =>
      let place : Place := ⟨index, before, after⟩
      let started := if found.isNone then threads ++ [⟨entry, []⟩] else threads
      let (settled, _) := settle program place (3 * program.size + started.length + 1) 0 started
      let (alive, done) := splitDone program settled
      let found := done <|> found
      match after with
      | [] => found
      | c :: rest =>
          if alive.isEmpty && found.isSome then found
          else run program entry (some c) (index + 1) rest (readChar program c alive) found

end TreeTable.Regex

namespace TreeTable

open Regex

/-- A regular expression that is ready to be searched for. -/
structure Regex where
  program : Program
  entry : Nat
  groupCount : Nat
  names : List (String × Nat)

namespace Regex

/-- The greatest weight of an expression that is accepted. -/
def maxWeight : Nat := 327680

/-- Where a match lies in the text: the whole, then every group that took part. -/
structure Match where
  saves : Saves

namespace Match

/-- The places where a group begins and ends; group 0 is the whole match. -/
def span? (m : Match) (group : Nat) : Option (Nat × Nat) := do
  let first ← m.saves.lookup (2 * group)
  let last ← m.saves.lookup (2 * group + 1)
  return (first, last)

/-- The text of a group. -/
def text? (m : Match) (text : List Char) (group : Nat) : Option String :=
  (m.span? group).map fun (first, last) =>
    String.ofList ((text.drop first).take (last - first))

end Match

/-- The leftmost match at a place or behind it. -/
def findFrom? (r : Regex) (place : Place) : Option Match :=
  (run r.program r.entry place.before place.index place.after [] none).map Match.mk

def isMatch (r : Regex) (text : String) : Bool := (r.findFrom? (Place.start text.toList)).isSome

def find? (r : Regex) (text : List Char) : Option Match := r.findFrom? (Place.start text)

/-- Moves a place to a later one. -/
def Place.moveTo (place : Place) (index : Nat) : Place :=
  match index - place.index with
  | 0 => place
  | n + 1 =>
      match place.after.drop n with
      | c :: rest => ⟨index, some c, rest⟩
      | [] => place

/-- The matches one after another. An empty match right at the end of the one before does
not count: the search then goes on one character later. -/
def matchesFrom (r : Regex) : Nat → Place → Option Nat → List Match
  | 0, _, _ => []
  | fuel + 1, place, last =>
      let first? := r.findFrom? place
      let match? := first?.bind fun m =>
        if m.span? 0 = last.map (fun i => (i, i)) then place.next?.bind r.findFrom? else some m
      match match? with
      | none => []
      | some m =>
          match m.span? 0 with
          | none => []
          | some (_, finish) => m :: matchesFrom r fuel (Place.moveTo place finish) (some finish)

def allMatches (r : Regex) (text : List Char) : List Match :=
  r.matchesFrom (text.length + 2) (Place.start text) none

end Regex

end TreeTable
