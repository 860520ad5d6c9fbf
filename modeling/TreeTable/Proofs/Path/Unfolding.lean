import TreeTable.Proofs.Path.LookupLimit

/-! # Unfolding lookups

What a lookup gives under one limit is what its target gives at the root under the limit below, so
following a lookup costs one unit of the limit. This holds wherever the lookup stands, since lookups
that stand side by side or in the key of another share one limit: only lookups that are met in the
target of a lookup count one more. A chain of lookups, each of which is found in the document by the
one before, can therefore be followed to its end just when the limit is its length or more.
-/

namespace TreeTable

open Outcome

/-- The error under a limit that is higher by one. -/
def EvalError.raiseLimit : EvalError → EvalError
  | cycle key limit => cycle key (limit + 1)
  | unsupported => unsupported

/-- What a lookup key gives under a limit that is higher by one than the evaluator's: the value at
the root of the path that it names, and null when it names none. -/
def Evaluator.unfoldKey (e : Evaluator) (root key : Value) : Except EvalError Value :=
  match key.key?.map Path.parse with
  | some (.ok path) => (e.evaluate path root).mapError EvalError.raiseLimit
  | _ => .ok .null

namespace Path

/-- Two runs with as many lookups left do the same under different limits. -/
theorem meets_retelling (limit : Nat) (root : Value) (remaining : Nat) :
    (Congruence.retelling EvalError.raiseLimit).Meets (fun _ => true)
      (resolveWithin (limit + 1) root remaining) (resolveWithin limit root remaining) := by
  induction remaining with
  | zero => exact ⟨fun _ _ _ => rfl, fun _ _ => rfl⟩
  | succ remaining ih =>
      refine ⟨fun _ _ key => ?_, fun _ _ => rfl⟩
      rw [resolveWithin, resolveWithin]
      split
      next path _ => exact ih.eval path (everywhere_of_forall (fun _ => rfl) path) root
      next => rfl

theorem resolveKey_resolveWithin (limit : Nat) (root key : Value) :
    resolveKey (resolveWithin (limit + 1) root (limit + 1)) key =
      Evaluator.unfoldKey ⟨limit⟩ root key := by
  rw [resolveKey, Evaluator.unfoldKey]
  cases key.key? with
  | none => rfl
  | some text =>
      dsimp only [Option.map_some]
      rw [resolveWithin]
      cases parse text with
      | error error => rfl
      | ok path =>
          have everywhere := everywhere_of_forall (fun _ => rfl) path
          exact (meets_retelling limit root limit).eval path everywhere root

theorem resolveKeys_of_not_list (resolve : Resolver) {key : Value}
    (alone : ∀ keys, key ≠ .list keys) : resolveKeys resolve key = resolveKey resolve key := by
  cases key with
  | list keys => exact absurd rfl (alone keys)
  | _ => rfl

/-- Of keys that all fail when they are named, the first that is named fails. -/
theorem error?_mapM_resolveKey (fails : String → EvalError) (keys : List Value) :
    error? (keys.mapM (resolveKey fun text => .error (fails text))) =
      (keys.findSome? Value.key?).map fails := by
  have named (key : Value) :
      error? (resolveKey (fun text => .error (fails text)) key) = key.key?.map fails := by
    rw [resolveKey]
    cases key.key? <;> rfl
  simp only [error?_mapM, named]
  exact List.map_findSome?.symm

end Path

/-- A chain of lookups that are stored in a document: the key of each is the text of the next, and
the last one leads to a path without lookups, which has some value. -/
inductive LookupChain (root : Value) : Nat → Path → Value → Value → Prop where
  | target {path : Path} {node value : Value} (free : path.noLookup = true)
      (hvalue : Evaluator.eval ⟨0⟩ path node root = .ok value) :
      LookupChain root 0 path node value
  | lookup {length : Nat} {inner path : Path} {node key value : Value} {text : String}
      (free : inner.noLookup = true) (hkey : Evaluator.eval ⟨0⟩ inner node root = .ok key)
      (names : key.key? = some text) (hpath : Path.parse text = .ok path)
      (rest : LookupChain root length path root value) :
      LookupChain root (length + 1) (.lookup inner) node value

namespace Evaluator

variable {limit : Nat} {inner path : Path} {node root key value : Value} {text : String}

theorem eval_lookup_eq (e : Evaluator) (hkey : e.eval inner node root = .ok key) :
    e.eval (.lookup inner) node root =
      Path.resolveKeys (Path.resolveWithin e.limit root e.limit) key := by
  rw [eval] at hkey
  rw [eval, Path.eval, hkey, ok_bind]

/-- A lookup of one key gives what the key leads to under the limit below. -/
theorem eval_lookup_of_not_list (hkey : eval ⟨limit + 1⟩ inner node root = .ok key)
    (alone : ∀ keys, key ≠ .list keys) :
    eval ⟨limit + 1⟩ (.lookup inner) node root = unfoldKey ⟨limit⟩ root key := by
  rw [eval_lookup_eq _ hkey, Path.resolveKeys_of_not_list _ alone, Path.resolveKey_resolveWithin]

theorem ne_list_of_key? (names : key.key? = some text) (keys : List Value) :
    key ≠ .list keys := by
  rintro rfl
  cases names

/-- A lookup of one named key gives the value of its target under the limit below. -/
theorem eval_lookup_of_parse (hkey : eval ⟨limit + 1⟩ inner node root = .ok key)
    (names : key.key? = some text) (hpath : Path.parse text = .ok path) :
    eval ⟨limit + 1⟩ (.lookup inner) node root =
      (evaluate ⟨limit⟩ path root).mapError EvalError.raiseLimit := by
  rw [eval_lookup_of_not_list hkey (ne_list_of_key? names), unfoldKey, names, Option.map_some,
    hpath]

/-- A lookup of many keys gives what all of them lead to, flattened by one level. -/
theorem eval_lookup_of_list {keys : List Value}
    (hkey : eval ⟨limit + 1⟩ inner node root = .ok (.list keys)) :
    eval ⟨limit + 1⟩ (.lookup inner) node root =
      (keys.mapM (unfoldKey ⟨limit⟩ root)).map fun values =>
        Value.sequester (Value.flattenOne values) := by
  have each : Path.resolveKey (Path.resolveWithin (limit + 1) root (limit + 1)) =
      unfoldKey ⟨limit⟩ root := funext fun key => Path.resolveKey_resolveWithin limit root key
  rw [eval_lookup_eq _ hkey, Path.resolveKeys, each]
  cases keys.mapM (unfoldKey ⟨limit⟩ root) <;> rfl

/-- Without any limit left the first key that is named cannot be followed. -/
theorem eval_lookup_zero (hvalue : eval ⟨0⟩ inner node root = .ok value)
    (first : value.selected.findSome? Value.key? = some text) :
    eval ⟨0⟩ (.lookup inner) node root = .error (.cycle text 0) := by
  rw [eval_lookup_eq _ hvalue]
  have none : Path.resolveWithin 0 root 0 = fun key => .error (.cycle key 0) := rfl
  dsimp only
  rw [none]
  cases value with
  | null => cases first
  | list keys =>
      have fails := Path.error?_mapM_resolveKey (fun key => .cycle key 0) keys
      rw [show keys.findSome? Value.key? = some text from first, Option.map_some,
        error?_eq_some_iff] at fails
      rw [Path.resolveKeys, fails]
      rfl
  | object fields => cases first
  | _ =>
      cases first
      rfl

/-- A chain of lookups is followed to its end if the limit is its length or more. -/
theorem eval_of_chain {length : Nat} (chain : LookupChain root length path node value)
    (limit : Nat) :
    (length ≤ limit → eval ⟨limit⟩ path node root = .ok value) ∧
      (limit < length → ReportsCycle (eval ⟨limit⟩ path node root)) := by
  induction chain generalizing limit with
  | target free hvalue =>
      refine ⟨fun _ => ?_, nofun⟩
      rw [eval_eq_of_noLookup free ⟨limit⟩ ⟨0⟩ _ root root, hvalue]
  | @lookup length inner path node key value text free hkey names hpath rest ih =>
      cases limit with
      | zero =>
          refine ⟨nofun, fun _ => ?_⟩
          have first : key.selected.findSome? Value.key? = some text := by
            cases key with
            | null | list _ | object _ => cases names
            | _ => simpa [Value.selected] using names
          exact ⟨_, eval_lookup_zero hkey first, text, 0, rfl⟩
      | succ limit =>
          -- One unit is spent on this lookup, the rest of the chain has the limit below.
          rw [eval_eq_of_noLookup free ⟨0⟩ ⟨limit + 1⟩ node root root] at hkey
          rw [eval_lookup_of_parse hkey names hpath]
          obtain ⟨enough, tooFew⟩ := ih limit
          constructor
          · intro hle
            rw [evaluate, enough (Nat.le_of_succ_le_succ hle)]
            rfl
          · intro hlt
            obtain ⟨error, fails, found, low, rfl⟩ := tooFew (Nat.lt_of_succ_lt_succ hlt)
            rw [evaluate, fails]
            exact ⟨_, rfl, found, low + 1, rfl⟩

/-- What a lookup gives under a limit of at least one follows from what its key gives under that
limit. A key that names a path gives the value of the path at the root, under the limit below and
with the higher limit in its errors; a key that names none, and null and objects, give null; and a
list gives the flattened values that its keys give. Under a limit of zero the first key that is
named is an error. So a chain of stored lookups has a value exactly if the limit is its length or
more, and else is too deep. -/
theorem eval_lookup_unfolds (inner : Path) (node root : Value) (limit : Nat) :
    (∀ key text path, eval ⟨limit + 1⟩ inner node root = .ok key → key.key? = some text →
      Path.parse text = .ok path → eval ⟨limit + 1⟩ (.lookup inner) node root =
        (evaluate ⟨limit⟩ path root).mapError EvalError.raiseLimit) ∧
      (∀ key, eval ⟨limit + 1⟩ inner node root = .ok key → (∀ keys, key ≠ .list keys) →
        (∀ text path, key.key? = some text → Path.parse text ≠ .ok path) →
          eval ⟨limit + 1⟩ (.lookup inner) node root = .ok .null) ∧
      (∀ keys, eval ⟨limit + 1⟩ inner node root = .ok (.list keys) →
        eval ⟨limit + 1⟩ (.lookup inner) node root =
          (keys.mapM (unfoldKey ⟨limit⟩ root)).map fun values =>
            Value.sequester (Value.flattenOne values)) ∧
      (∀ value, eval ⟨0⟩ inner node root = .ok value →
        ∀ key ∈ value.selected, key.key? ≠ none →
          ∃ text, value.selected.findSome? Value.key? = some text ∧
            eval ⟨0⟩ (.lookup inner) node root = .error (.cycle text 0)) ∧
      ∀ {length : Nat} {path : Path} {value : Value}, LookupChain root length path node value →
        (eval ⟨limit⟩ path node root = .ok value ↔ length ≤ limit) ∧
          (ReportsCycle (eval ⟨limit⟩ path node root) ↔ limit < length) := by
  refine ⟨fun _ _ _ => eval_lookup_of_parse, ?_, fun _ => eval_lookup_of_list, ?_, ?_⟩
  · intro key hkey alone unnamed
    rw [eval_lookup_of_not_list hkey alone, unfoldKey]
    cases names : key.key? with
    | none => rfl
    | some text =>
        cases hpath : Path.parse text with
        | ok path => exact absurd hpath (unnamed text path names)
        | error error => simp [hpath]
  · intro value hvalue key among named
    cases first : value.selected.findSome? Value.key? with
    | none => exact absurd (List.findSome?_eq_none_iff.mp first key among) named
    | some text => exact ⟨text, rfl, eval_lookup_zero hvalue first⟩
  · intro length path value chain
    obtain ⟨enough, tooFew⟩ := eval_of_chain chain limit
    rcases Nat.lt_or_ge limit length with hlt | hle
    · obtain ⟨error, fails, -⟩ := tooFew hlt
      refine ⟨⟨fun answers => ?_, fun hle => enough hle⟩, ⟨fun _ => hlt, tooFew⟩⟩
      rw [fails] at answers
      cases answers
    · refine ⟨⟨fun _ => hle, enough⟩, ⟨fun cycles => ?_, fun hlt => tooFew hlt⟩⟩
      obtain ⟨error, fails, -⟩ := cycles
      rw [enough hle] at fails
      cases fails

theorem eval_lookup_unfolds_stored :
    let named (key : String) : Path := .field key none
    let document : Value := .object [("a", .string "<b>"), ("b", .string "<c>"),
      ("c", .string "d"), ("d", .int 4), ("bad", .string "a]"),
      ("keys", .list [.null, .string "c", .object []])]
    Path.parse "<b>" = .ok (.lookup (named "b")) ∧
      eval ⟨2⟩ (.lookup (named "a")) document document = .error (.cycle "d" 2) ∧
      (∀ path, Path.parse "a]" ≠ .ok path) ∧
      eval ⟨2⟩ (.lookup (named "bad")) document document = .ok .null ∧
      eval ⟨2⟩ (.lookup (named "keys")) document document =
        .ok (.list [.null, .string "d", .null]) ∧
      eval ⟨0⟩ (.lookup (named "keys")) document document = .error (.cycle "c" 0) ∧
      LookupChain document 3 (.lookup (named "a")) document (.int 4) ∧
      (eval ⟨2⟩ (.lookup (named "a")) document document = .ok (.int 4) ↔ 3 ≤ 2) ∧
      (ReportsCycle (eval ⟨2⟩ (.lookup (named "a")) document document) ↔ 2 < 3) := by
  intro named document
  have first : Path.parse "<b>" = .ok (.lookup (named "b")) := by decide +kernel
  have second : Path.parse "<c>" = .ok (.lookup (named "c")) := by decide +kernel
  have third : Path.parse "d" = .ok (named "d") := by decide +kernel
  have unread : ∀ path, Path.parse "a]" ≠ .ok path := by
    intro path h
    have fails : error? (Path.parse "a]") ≠ none := by decide +kernel
    rw [h] at fails
    exact fails rfl
  have chain : LookupChain document 3 (.lookup (named "a")) document (.int 4) := by
    refine .lookup (by decide) rfl rfl first (.lookup (by decide) rfl rfl second ?_)
    exact .lookup (by decide) rfl rfl third (.target (by decide) rfl)
  obtain ⟨follows, -, -, -, -⟩ := eval_lookup_unfolds (named "a") document document 1
  obtain ⟨-, null, -, -, -⟩ := eval_lookup_unfolds (named "bad") document document 1
  obtain ⟨-, -, flat, zero, -⟩ := eval_lookup_unfolds (named "keys") document document 1
  obtain ⟨-, -, -, -, ends⟩ := eval_lookup_unfolds (named "a") document document 2
  refine ⟨first, ?_, unread, ?_, ?_, ?_, chain, (ends chain).1, (ends chain).2⟩
  · rw [follows _ "<b>" _ rfl rfl first]
    decide +kernel
  · apply null (.string "a]") rfl nofun
    rintro _ path ⟨⟩
    exact unread path
  · rw [flat _ rfl]
    decide +kernel
  · obtain ⟨text, among, fails⟩ := zero _ rfl (.string "c") (by decide) (by decide)
    cases among
    exact fails

end Evaluator

end TreeTable
