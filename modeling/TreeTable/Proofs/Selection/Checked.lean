import Mathlib.Data.List.Basic
import TreeTable.Proofs.Selection.Positions

/-! # Selecting with checked arithmetic

Selectors are made of 64-bit words, and so is the length of a list that is in memory. The selections
here compute with such words and fail when a sum overflows, when a part that is cut out of a list is
no part of it, and when a child of a node is asked for that it does not have. Values and positions
are selected by computations of their own, which bring the bounds of a range into the list in
different orders. None of this ever fails, and both give what is selected without any checks; the
values that are picked are then those at the positions, but for the nulls that stand for positions
outside the list.
-/

namespace TreeTable

open Numeric

/-- The sum of two words, if it is a word. -/
def addWords (a b : Int) : Option Int :=
  if -(twoPow 63) ≤ a + b ∧ a + b < twoPow 63 then some (a + b) else none

/-- The length of a list as a word. -/
def lengthWord (length : Nat) : Option Int :=
  if length < twoPow 63 then some length else none

/-- A word as a position, if it is not negative. -/
def positionOfWord (i : Int) : Option Nat := if 0 ≤ i then some i.toNat else none

namespace Selector

/-- A position as a word, a negative one counted from the end. -/
def offsetWord (length : Int) (n : Int64) : Option Int :=
  if n.toInt < 0 then addWords length n.toInt else some n.toInt

/-- A position in a list, if it does not lie before it. -/
def placeWord (length : Int) (n : Int64) : Option (Option Nat) := do
  let i ← offsetWord length n
  return if 0 ≤ i then some i.toNat else none

/-- A bound brought between zero and the length, which must not be negative. -/
def clampWord (length : Int) (n : Int64) : Option Int := do
  let i ← offsetWord length n
  if 0 ≤ length then return max 0 (min i length) else none

/-- The part of a list between two words, if it is a part of the list. -/
def cut (items : List Value) (first past : Int) : Option (List Value) := do
  let past := min past (← lengthWord items.length)
  if past ≤ first then return []
  else
    let first ← positionOfWord first
    let past ← positionOfWord past
    if first ≤ past ∧ past ≤ items.length then return (items.take past).drop first else none

/-- The positions from one word up to another, if they are no negative words. -/
def positionsBetween (first past : Int) : Option (List Nat) := do
  let first ← positionOfWord first
  let past ← positionOfWord past
  return List.range' first (past - first)

/-- The values that a selector picks. -/
def checkedPicks (items : List Value) : Selector → Option (List Value)
  | position n => do
      let place ← placeWord (← lengthWord items.length) n
      return [(place.bind (items[·]?)).getD .null]
  | range first last inclusive => do
      let length ← lengthWord items.length
      let past ← addWords (← clampWord length last) (if inclusive then 1 else 0)
      cut items (← clampWord length first) past
  | onward first => do
      let length ← lengthWord items.length
      cut items (← clampWord length first) length

/-- The positions that a selector picks in a list of some length. -/
def checkedPositions (length : Nat) : Selector → Option (List Nat)
  | position n => do
      let place ← placeWord (← lengthWord length) n
      return (place.filter (· < length)).toList
  | range first last inclusive => do
      let word ← lengthWord length
      let past ← addWords (← clampWord word last) (if inclusive then 1 else 0)
      positionsBetween (← clampWord word first) (max (min past word) 0)
  | onward first => do
      let word ← lengthWord length
      positionsBetween (← clampWord word first) word

section Words

variable {length : Nat} (inMemory : length + 1 < twoPow 63)

include inMemory

theorem lengthWord_eq : lengthWord length = some (length : Int) := by
  rw [lengthWord, if_pos (by omega)]

/-- Counting from the end of a list does not overflow, not even for the least word. -/
theorem offsetWord_eq (n : Int64) : offsetWord length n = some (offset length n) := by
  have low : -(twoPow 63 : Int) ≤ n.toInt := n.le_toInt
  rw [offsetWord, offset]
  split
  · rw [addWords, if_pos (by omega)]
  · rfl

theorem clampWord_eq (n : Int64) : clampWord length n = some (clamp length n : Int) := by
  have inside : max 0 (min (offset length n) (length : Int)) = (clamp length n : Int) := by
    simp only [clamp, Nat.min_def]
    split <;> omega
  rw [clampWord, offsetWord_eq inMemory, Option.bind_eq_bind, Option.bind_some,
    if_pos (Int.natCast_nonneg length), inside]
  rfl

/-- Taking in the last position of a range does not overflow. -/
theorem addWords_eq {i : Nat} (inside : i ≤ length) (inclusive : Bool) :
    addWords i (if inclusive then 1 else 0) =
      some ((i + if inclusive then 1 else 0 : Nat) : Int) := by
  cases inclusive with
  | true =>
      rw [addWords, if_pos rfl, if_pos rfl, if_pos (by omega)]
      rfl
  | false =>
      rw [addWords, if_neg Bool.false_ne_true, if_neg Bool.false_ne_true, if_pos (by omega)]
      rfl

end Words

theorem clamp_le (length : Nat) (n : Int64) : clamp length n ≤ length := Nat.min_le_right _ _

@[simp] theorem positionOfWord_natCast (i : Nat) : positionOfWord i = some i := by
  rw [positionOfWord, if_pos (Int.natCast_nonneg i), Int.toNat_natCast]

theorem positionsBetween_natCast (first past : Nat) :
    positionsBetween first past = some (List.range' first (past - first)) := by
  simp [positionsBetween]

/-- What is cut out of a list is always a part of it. -/
theorem cut_eq {items : List Value} (inMemory : items.length + 1 < twoPow 63)
    (first past : Nat) :
    cut items first past = some ((items.take (Nat.min past items.length)).drop first) := by
  have clipped : min (past : Int) items.length = (Nat.min past items.length : Nat) := by
    simp only [Nat.min_def]
    split <;> omega
  have inside : Nat.min past items.length ≤ items.length := Nat.min_le_right _ _
  rw [cut, lengthWord_eq inMemory]
  simp only [Option.bind_eq_bind, Option.bind_some, clipped]
  by_cases empty : Nat.min past items.length ≤ first
  · have nothing : (items.take (Nat.min past items.length)).drop first = [] := by
      rw [List.drop_eq_nil_iff, List.length_take]
      omega
    rw [if_pos (Int.ofNat_le.mpr empty), nothing]
    rfl
  · have ordered : first ≤ Nat.min past items.length := by omega
    rw [if_neg (fun h => empty (Int.ofNat_le.mp h))]
    simp only [positionOfWord_natCast, Option.bind_some, if_pos (And.intro ordered inside)]
    rfl

theorem checkedPicks_eq {items : List Value} (inMemory : items.length + 1 < twoPow 63)
    (selector : Selector) : selector.checkedPicks items = some (selector.picks items) := by
  cases selector with
  | position n =>
      simp only [checkedPicks, lengthWord_eq inMemory, placeWord, offsetWord_eq inMemory, picks,
        Option.bind_eq_bind, Option.bind_some, Option.pure_def]
      by_cases before : offset items.length n < 0
      · rw [if_neg (by omega), if_pos before]
        rfl
      · rw [if_pos (by omega), if_neg before]
        rfl
  | range first last inclusive =>
      have past := addWords_eq inMemory (clamp_le items.length last) inclusive
      simp only [checkedPicks, lengthWord_eq inMemory, clampWord_eq inMemory, past,
        cut_eq inMemory, Option.bind_eq_bind, Option.bind_some]
      rfl
  | onward first =>
      have whole : Nat.min items.length items.length = items.length := Nat.min_self _
      simp only [checkedPicks, lengthWord_eq inMemory, clampWord_eq inMemory, cut_eq inMemory,
        whole, Option.bind_eq_bind, Option.bind_some]
      rfl

theorem checkedPositions_eq {length : Nat} (inMemory : length + 1 < twoPow 63)
    (selector : Selector) :
    selector.checkedPositions length = some (selector.positions length) := by
  cases selector with
  | position n =>
      simp only [checkedPositions, lengthWord_eq inMemory, placeWord, offsetWord_eq inMemory,
        positions, Option.bind_eq_bind, Option.bind_some, Option.pure_def]
      by_cases before : offset length n < 0
      · rw [if_neg (by omega), if_neg (by omega)]
        rfl
      · rw [if_pos (by omega)]
        by_cases inside : offset length n < length
        · have bound : (offset length n).toNat < length := by omega
          rw [if_pos ⟨by omega, inside⟩, Option.filter_some, decide_eq_true bound, if_pos rfl]
          rfl
        · have beyond : ¬ (offset length n).toNat < length := by omega
          rw [if_neg (fun h => inside h.2), Option.filter_some, decide_eq_false beyond,
            if_neg Bool.false_ne_true]
          rfl
  | range first last inclusive =>
      have past := addWords_eq inMemory (clamp_le length last) inclusive
      have clipped (i : Nat) : max (min (i : Int) length) 0 = (Nat.min i length : Nat) := by
        simp only [Nat.min_def]
        split <;> omega
      simp only [checkedPositions, lengthWord_eq inMemory, clampWord_eq inMemory, past, clipped,
        positionsBetween_natCast, Option.bind_eq_bind, Option.bind_some]
      rfl
  | onward first =>
      simp only [checkedPositions, lengthWord_eq inMemory, clampWord_eq inMemory,
        positionsBetween_natCast, Option.bind_eq_bind, Option.bind_some]
      rfl

/-- Whether a selector is a single position that lies outside a list. -/
def isOutside (length : Nat) : Selector → Bool
  | position n => decide (offset length n < 0 ∨ length ≤ offset length n)
  | _ => false

/-- A single position outside the list picks a null and gives no position. -/
theorem picks_of_isOutside {items : List Value} {selector : Selector}
    (outside : selector.isOutside items.length = true) :
    selector.picks items = [.null] ∧ selector.positions items.length = [] := by
  cases selector with
  | position n =>
      rw [isOutside, decide_eq_true_iff] at outside
      have nowhere : ¬ (0 ≤ offset items.length n ∧ offset items.length n < items.length) := by
        omega
      rw [picks, positions, if_neg nowhere]
      refine ⟨?_, rfl⟩
      by_cases before : offset items.length n < 0
      · rw [if_pos before]
      · have beyond : items.length ≤ (offset items.length n).toNat := by omega
        rw [if_neg before, List.getElem?_eq_none beyond, Option.getD_none]
  | range first last inclusive => cases outside
  | onward first => cases outside

/-- Any other selector picks what stands at its positions. -/
theorem picks_of_not_isOutside {items : List Value} {selector : Selector}
    (inside : selector.isOutside items.length = false) :
    (selector.picks items).map some =
      (selector.positions items.length).map (items[·]?) := by
  have getD (i : Nat) (hi : i < items.length) : some (items[i]?.getD .null) = items[i]? := by
    rw [List.getElem?_eq_getElem hi, Option.getD_some]
  cases selector with
  | position n =>
      rw [isOutside, decide_eq_false_iff_not] at inside
      have there : 0 ≤ offset items.length n ∧ offset items.length n < items.length := by omega
      have bound : (offset items.length n).toNat < items.length := by omega
      rw [picks, positions, if_pos there, if_neg (Int.not_lt.mpr there.1), List.map_singleton,
        List.map_singleton, getD _ bound]
  | range first last inclusive =>
      rw [picks_eq_map_positions (by simp), List.map_map]
      exact List.map_congr_left fun i hi => getD i (mem_positions_lt hi)
  | onward first =>
      rw [picks_eq_map_positions (by simp), List.map_map]
      exact List.map_congr_left fun i hi => getD i (mem_positions_lt hi)

end Selector

/-- A list of computations that all succeed. -/
theorem mapM_eq_some_map {α β : Type} {f : α → Option β} {g : α → β} {items : List α}
    (h : ∀ item ∈ items, f item = some (g item)) : items.mapM f = some (items.map g) := by
  induction items with
  | nil => rfl
  | cons item rest ih =>
      rw [List.forall_mem_cons] at h
      rw [List.mapM_cons, h.1, ih h.2]
      rfl

namespace Selection

/-- The picks of all selectors, collapsed. -/
def checkedResolve (selection : Selection) (items : List Value) : Option Value := do
  let picked ← selection.mapM (Selector.checkedPicks items)
  return Value.sequester picked.flatten

def checkedPositions (selection : Selection) (length : Nat) : Option (List Nat) := do
  let chosen ← selection.mapM (Selector.checkedPositions length)
  return chosen.flatten

theorem checkedResolve_eq {items : List Value} (inMemory : items.length + 1 < twoPow 63)
    (selection : Selection) : selection.checkedResolve items = some (selection.resolve items) := by
  rw [checkedResolve, mapM_eq_some_map fun selector _ => selector.checkedPicks_eq inMemory,
    resolve, List.flatMap_def]
  rfl

theorem checkedPositions_eq {length : Nat} (inMemory : length + 1 < twoPow 63)
    (selection : Selection) :
    selection.checkedPositions length = some (selection.positions length) := by
  rw [checkedPositions, mapM_eq_some_map fun selector _ => selector.checkedPositions_eq inMemory,
    positions, List.flatMap_def]
  rfl

/-- Without the nulls for positions outside the list, what is picked stands at the positions. -/
theorem map_picks_of_not_isOutside (selection : Selection) (items : List Value) :
    ((selection.filter fun selector => !selector.isOutside items.length).flatMap
      (Selector.picks items)).map some =
        (selection.positions items.length).map (items[·]?) := by
  induction selection with
  | nil => rfl
  | cons selector rest ih =>
      rw [positions, List.flatMap_cons, List.map_append, ← positions, ← ih]
      cases outside : selector.isOutside items.length with
      | true => simp [outside, (Selector.picks_of_isOutside outside).2]
      | false => simp [outside, Selector.picks_of_not_isOutside outside]

end Selection

namespace Path

mutual

/-- The addresses of a field of the node at an address, if only children are asked for that the
node has. -/
def checkedLocate (key : String) (selection : Option Selection) :
    Address → Value → Option (List Address)
  | here, .object fields =>
      if key = wildcard then
        (childPositions selection fields.length).mapM fun i =>
          fields[i]?.map fun field => here.field field.1
      else match Fields.get? fields key with
        | some value => some (narrowAddress selection (here.field key) value)
        | none => some []
  | here, .list items =>
      if key = wildcard then some ((childPositions selection items.length).map here.index)
      else match int64OfText? key with
        | some n => do
            let found ← (Selection.positions [.position n] items.length).mapM fun i =>
              items[i]?.map (narrowAddress selection (here.index i))
            return found.flatten
        | none => checkedLocateIn key selection here 0 items
  | _, _ => some []

def checkedLocateIn (key : String) (selection : Option Selection) (here : Address) :
    Nat → List Value → Option (List Address)
  | _, [] => some []
  | i, item :: rest => do
      let found ← checkedLocate key selection (here.index i) item
      let others ← checkedLocateIn key selection here (i + 1) rest
      return found ++ others

end

/-- Every position that is selected is the position of a field. -/
theorem mapM_fields_eq (selection : Option Selection) (here : Address) (fields : Fields) :
    ((childPositions selection fields.length).mapM fun i =>
      fields[i]?.map fun field => here.field field.1) =
        some ((childPositions selection fields.length).filterMap fun i =>
          fields[i]?.map fun field => here.field field.1) := by
  have there : ∀ i ∈ childPositions selection fields.length,
      (fields[i]?.map fun field => here.field field.1) =
        some (here.field (fields[i]?.map Prod.fst |>.getD "")) := by
    intro i hi
    rw [List.getElem?_eq_getElem (mem_childPositions_lt hi)]
    rfl
  rw [mapM_eq_some_map there, List.filterMap_eq_map_iff_forall_eq_some.mpr there]

theorem mapM_element_eq (selection : Option Selection) (here : Address) (n : Int64)
    (items : List Value) :
    ((Selection.positions [.position n] items.length).mapM fun i =>
      items[i]?.map (narrowAddress selection (here.index i))) =
        some ((Selection.positions [.position n] items.length).map fun i =>
          match items[i]? with
          | some item => narrowAddress selection (here.index i) item
          | none => []) := by
  apply mapM_eq_some_map
  intro i hi
  rw [List.getElem?_eq_getElem (Selection.mem_positions_lt hi)]
  rfl

mutual

theorem checkedLocate_eq (key : String) (selection : Option Selection) (here : Address) :
    (node : Value) → checkedLocate key selection here node =
      some (locateField key selection here node)
  | .object fields => by
      rw [checkedLocate, locateField, mapM_fields_eq]
      split
      next => rfl
      next => cases Fields.get? fields key <;> rfl
  | .list items => by
      rw [checkedLocate, locateField]
      split
      next => rfl
      next =>
        cases int64OfText? key with
        | some n =>
            dsimp only
            rw [mapM_element_eq, List.flatMap_def]
            rfl
        | none => exact checkedLocateIn_eq key selection here 0 items
  | .null | .bool _ | .int _ | .float _ | .string _ => by simp [checkedLocate, locateField]

theorem checkedLocateIn_eq (key : String) (selection : Option Selection) (here : Address)
    (start : Nat) : (items : List Value) → checkedLocateIn key selection here start items =
      some (locateFieldIn key selection here start items)
  | [] => by rw [checkedLocateIn, locateFieldIn]
  | item :: rest => by
      rw [checkedLocateIn, locateFieldIn, checkedLocate_eq key selection (here.index start) item,
        checkedLocateIn_eq key selection here (start + 1) rest]
      rfl

end

end Path

/-- Values and positions of a selection agree and stay within the list. Positions lie in the list,
and the values are the collapsed picks of the selectors one after another: a null for every single
position outside the list, which gives no position, and apart from these nulls what stands at the
positions, in their order and as often. Computed with words all of this comes out the same, without
an overflow and without a part beyond the list, if the list fits into memory, where there is no room
for more elements than words can count. Locating a field never asks for a child that a node does not
have. -/
theorem Selection.resolve_positions (selection : Selection) (items : List Value) :
    (∀ i ∈ selection.positions items.length, i < items.length) ∧
      selection.resolve items = .sequester (selection.flatMap (Selector.picks items)) ∧
      (∀ selector : Selector, selector.isOutside items.length = true →
        selector.picks items = [.null] ∧ selector.positions items.length = []) ∧
      ((selection.filter fun selector => !selector.isOutside items.length).flatMap
        (Selector.picks items)).map some =
          (selection.positions items.length).map (items[·]?) ∧
      (items.length + 1 < twoPow 63 →
        selection.checkedResolve items = some (selection.resolve items) ∧
          selection.checkedPositions items.length = some (selection.positions items.length)) ∧
      ∀ (key : String) (narrowing : Option Selection) (here : Address) (node : Value),
        Path.checkedLocate key narrowing here node =
          some (Path.locateField key narrowing here node) := by
  refine ⟨fun _ => mem_positions_lt, rfl, fun _ => Selector.picks_of_isOutside,
    map_picks_of_not_isOutside selection items, ?_, ?_⟩
  · intro inMemory
    exact ⟨checkedResolve_eq inMemory selection, checkedPositions_eq inMemory selection⟩
  · intro key narrowing here node
    exact Path.checkedLocate_eq key narrowing here node

theorem Selection.resolve_positions_extremes :
    let items : List Value := [.int 10, .null, .list [.int 30]]
    let before : Selector := .position Int64.minValue
    let selection : Selection := [before, .position (-1), .onward Int64.maxValue,
      .range Int64.minValue Int64.maxValue true, .position 3, .position (-1)]
    2 ∈ selection.positions items.length ∧ 2 < items.length ∧
      before.isOutside items.length = true ∧ before.picks items = [.null] ∧
      items.length + 1 < twoPow 63 ∧
      selection.checkedPositions items.length = some [2, 0, 1, 2, 2] ∧
      selection.checkedResolve items = some (.list [.null, .list [.int 30], .int 10, .null,
        .list [.int 30], .null, .list [.int 30]]) := by
  intro items before selection
  have among : 2 ∈ selection.positions items.length := by decide
  have outside : before.isOutside items.length = true := by decide
  have inMemory : items.length + 1 < twoPow 63 := by decide
  obtain ⟨inside, -, nulls, -, words, -⟩ := Selection.resolve_positions selection items
  obtain ⟨values, places⟩ := words inMemory
  refine ⟨among, inside 2 among, outside, (nulls before outside).1, inMemory, ?_, ?_⟩
  · exact places.trans (by decide)
  · exact values.trans (by decide)

end TreeTable
