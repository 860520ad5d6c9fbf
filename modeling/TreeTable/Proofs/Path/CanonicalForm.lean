import Mathlib.Data.List.Chain
import TreeTable.Command
import TreeTable.Proofs.Path.Denotation
import TreeTable.Proofs.Path.RoundTrip

/-! # What is read is canonical

Two lexemes that stand next to each other in a text constrain each other: a key behind a
lexeme that opens a step cannot begin with a sign, and no dot stands behind a literal. These
facts about neighbours, with those about single keys and patterns, carry over from the lexemes
to the path that they denote.
-/

namespace TreeTable.Path

open Text

/-- What holds of a lexeme and the one before it in every text. -/
structure Neighbours (before l : Lexeme) : Prop where
  key : ∀ key, l = .name key → before.opensStep = true → isCanonicalKey key.toList = true
  source : ∀ source, l = .pattern source → isCanonicalSource source.toList = true
  literal : ∀ text, before = .literal text → l ≠ .dot

/-- Cutting the blanks off the end of a text keeps a first character that is no blank. -/
theorem trimEnd_cons {c : Char} (noBlank : isBlank c = false) (cs : List Char) :
    ∃ tail, trimEnd (c :: cs) = c :: tail ∧ ∀ d ∈ tail, d ∈ cs := by
  obtain ⟨blanks, hsplit, hblanks⟩ := trimEnd_append_blank (c :: cs)
  cases hkept : trimEnd (c :: cs) with
  | nil =>
      rw [hkept, List.nil_append] at hsplit
      have blank := hblanks c (hsplit ▸ List.mem_cons_self)
      rw [noBlank] at blank
      cases blank
  | cons first tail =>
      rw [hkept, List.cons_append] at hsplit
      obtain ⟨rfl, rfl⟩ := List.cons.inj hsplit
      exact ⟨tail, rfl, fun d hd => List.mem_append_left _ hd⟩

/-- A key that is read where a step may begin is canonical. -/
theorem isCanonicalKey_of_read {c : Char} {rest : List Char} (noBlank : isBlank c = false)
    (isKey : isDelimiter c = false) (noSign : c ≠ '#' ∧ c ≠ '/' ∧ c ≠ '!') :
    isCanonicalKey (trimEnd ((c :: rest).takeWhile (!isDelimiter ·))) = true := by
  have taken : (c :: rest).takeWhile (!isDelimiter ·) =
      c :: rest.takeWhile (!isDelimiter ·) := by simp [isKey]
  rw [taken]
  obtain ⟨tail, hkept, htail⟩ := trimEnd_cons noBlank (rest.takeWhile (!isDelimiter ·))
  refine isCanonicalKey_iff.mpr ⟨c, tail, hkept, noSign, noBlank, ?_, ?_⟩
  · intro d hd
    exact getLast?_trimEnd _ hd
  · rw [hkept]
    intro d hd
    rcases List.mem_cons.mp hd with rfl | hd
    · exact isKey
    · have passed := List.all_eq_true.mp List.all_takeWhile d (htail d hd)
      simpa using passed

theorem isCanonicalSource_cons {c : Char} (noEscape : c ≠ '\\') (source : List Char) :
    isCanonicalSource (c :: source) = isCanonicalSource source := by
  rw [isCanonicalSource.eq_def]
  split
  next h => cases h
  next h => exact absurd (List.cons.inj h).1 noEscape
  next h => exact absurd (List.cons.inj h).1 noEscape
  next h =>
    obtain ⟨-, rfl⟩ := List.cons.inj h
    rfl

/-- A pattern that is read is canonical. -/
theorem isCanonicalSource_of_read {cs source after : List Char}
    (h : readPattern cs = some (source, after)) : isCanonicalSource source = true := by
  fun_induction readPattern cs generalizing source with
  | case1 => cases h
  | case2 rest =>
      cases h
      rfl
  | case3 => cases h
  | case4 c rest ih =>
      obtain ⟨⟨source, after⟩, hread, heq⟩ := Option.map_eq_some_iff.mp h
      cases heq
      have canonical := ih hread
      split
      next hslash =>
        rw [hslash, isCanonicalSource_cons (by decide)]
        exact canonical
      next hslash => simp [isCanonicalSource, hslash, canonical]
  | case5 c rest slash single escape ih =>
      obtain ⟨⟨source, after⟩, hread, heq⟩ := Option.map_eq_some_iff.mp h
      cases heq
      have noEscape : c ≠ '\\' := by
        rintro rfl
        cases rest with
        | nil => exact single rfl rfl
        | cons d rest => exact escape d rest rfl rfl
      rw [isCanonicalSource_cons noEscape]
      exact ih hread

/-- What is left behind a literal begins with a character that ends literals. -/
theorem endsPath_readLiteral (cs : List Char) : EndsPath (readLiteral cs).2 := by
  fun_induction readLiteral cs with
  | case1 => exact .nil
  | case2 => exact .nil
  | case3 c rest text after hread ih =>
      rw [hread] at ih
      exact ih
  | case4 c rest _ _ hend =>
      rintro d ⟨⟩
      exact hend
  | case5 c rest _ _ _ text after hread ih =>
      rw [hread] at ih
      exact ih

/-- Behind a literal no blank is skipped and no dot is read. -/
theorem ne_dot_of_endsPath {atStep : Bool} {cs rest : List Char} {l : Lexeme}
    (h : ReadsAs atStep (trimStart cs) l rest) (hend : EndsPath cs) : l ≠ .dot := by
  rintro rfl
  generalize htrim : trimStart cs = trimmed at h
  cases h
  cases cs with
  | nil => cases htrim
  | cons c cs =>
      have hc : endsLiteral c = true := hend c rfl
      rcases endsLiteral_iff.mp hc with rfl | rfl | rfl | rfl <;> cases htrim

theorem ReadsAs.neighbours {atStep : Bool} {cs rest : List Char} {before l : Lexeme}
    (h : ReadsAs atStep (trimStart cs) l rest) (hstep : before.opensStep = atStep)
    (hend : ∀ text, before = .literal text → EndsPath cs) : Neighbours before l := by
  refine ⟨?_, ?_, ?_⟩
  · rintro key rfl hopens
    have noBlank := isBlank_head_trimStart cs
    generalize trimStart cs = trimmed at h noBlank
    cases h with
    | name isKey noSign =>
        rw [String.toList_ofList]
        exact isCanonicalKey_of_read (noBlank _ rfl) isKey (noSign (hstep ▸ hopens))
  · rintro source rfl
    generalize trimStart cs = trimmed at h
    cases h with
    | pattern step hread =>
        rw [String.toList_ofList]
        exact isCanonicalSource_of_read hread
  · intro text hbefore
    exact ne_dot_of_endsPath h (hend text hbefore)

theorem ReadsAs.endsPath {atStep : Bool} {cs rest : List Char} {text : String}
    (h : ReadsAs atStep cs (.literal text) rest) : EndsPath rest := by
  cases h
  exact endsPath_readLiteral _

/-- Lexemes of a text are neighbours, each of the one before it. -/
theorem Lexes.isChain {atStep after : Bool} {cs rest : List Char} {lexemes : List Lexeme}
    (h : Lexes atStep cs lexemes after rest) (before : Lexeme)
    (hstep : before.opensStep = atStep) (hend : ∀ text, before = .literal text → EndsPath cs) :
    List.IsChain Neighbours (before :: lexemes) := by
  induction h generalizing before with
  | nil => exact .singleton before
  | @cons _ _ _ _ _ l _ h _ _ ih =>
      refine .cons_cons (h.neighbours hstep hend) (ih l rfl ?_)
      rintro text rfl
      exact h.endsPath

/-- A path that is canonical at a level is canonical at every looser one. -/
theorem isCanonicalAt_loosen {level tighter : Level} {path : Path}
    (h : isCanonicalAt tighter path = true) (looser : level.depth ≤ tighter.depth) :
    isCanonicalAt level path = true := by
  cases path with
  | any _ | all _ | each _ | steps _ =>
      simp only [isCanonicalAt, Bool.and_eq_true, decide_eq_true_eq] at h ⊢
      simp only [h, and_true]
      omega
  | _ => exact h

/-- A list of members that are canonical is canonical. -/
theorem isCanonicalAt_collapse {level : Level} {members : List Path} (isList : level ≠ .step)
    (ne : members ≠ []) (h : areCanonicalAt level.next members = true)
    (literals : level = .steps → literalsLast members = true) :
    isCanonicalAt level (collapse level.wrap members) = true := by
  match members, ne with
  | [member], _ =>
      -- One member stands for itself, and is canonical at any looser level too.
      rw [areCanonicalAt, areCanonicalAt, Bool.and_true] at h
      apply isCanonicalAt_loosen h
      rw [Level.depth_next isList]
      exact Nat.le_succ _
  | first :: second :: others, _ =>
      rw [collapse_of_two_le level.wrap (by simp)]
      cases level with
      | step => exact absurd rfl isList
      | steps =>
          have hlast := literals rfl
          rw [Level.next] at h
          simp [Level.wrap, isCanonicalAt, h, hlast]
      | _ =>
          rw [Level.next] at h
          simp [Level.wrap, isCanonicalAt, h, Level.depth]

/-- The only lexeme of a literal is its own. -/
theorem Derives.eq_of_literal {word : List Lexeme} {text : String}
    (h : Derives .step word (.literal text)) : word = [.literal text] := by
  generalize hpath : Path.literal text = path at h
  cases h with
  | literal text =>
      cases hpath
      rfl
  | list isList => exact absurd rfl isList
  | _ => cases hpath

theorem Level.opensStep_separator (level : Level) : level.separator.opensStep = true := by
  cases level <;> rfl

/-- A member with a dot behind it is no literal. -/
theorem literalsLast_cons {before : Lexeme} {word rest : List Lexeme} {member : Path}
    {members : List Path} (chain : List.IsChain Neighbours (before :: (word ++ .dot :: rest)))
    (h : Derives .step word member) (literals : literalsLast members = true) :
    literalsLast (member :: members) = true := by
  cases members with
  | nil => rfl
  | cons next others =>
      cases member with
      | literal text =>
          -- Its lexeme stands right before the dot, which it would have swallowed.
          obtain rfl := h.eq_of_literal
          have behind : Neighbours (.literal text) .dot := chain.tail.rel_head? rfl
          exact absurd rfl (behind.literal text rfl)
      | _ => exact literals

mutual

/-- What lexemes of a text denote is canonical. -/
theorem Derives.isCanonicalAt {level : Level} {before : Lexeme} {word : List Lexeme}
    {path : Path} (opens : before.opensStep = true)
    (chain : List.IsChain Neighbours (before :: word)) :
    Derives level word path → isCanonicalAt level path = true
  | .literal text => by rw [Path.isCanonicalAt]
  | .keys pattern => by
      have hpattern : Neighbours before (.pattern pattern.source) := chain.rel_head? rfl
      rw [Path.isCanonicalAt]
      exact hpattern.source _ rfl
  | @Derives.lookup inner _ h => by
      have inside : List.IsChain Neighbours ((.lookupStart :: inner) ++ [.lookupEnd]) := chain.tail
      rw [Path.isCanonicalAt]
      exact Derives.isCanonicalAt rfl inside.left_of_append h
  | .field key => by
      have hkey : Neighbours before (.name key) := chain.rel_head? rfl
      rw [Path.isCanonicalAt, hkey.key key rfl opens]
      rfl
  | .selected key hselection => by
      have hkey : Neighbours before (.name key) := chain.rel_head? rfl
      have ne := Selection.ne_nil_of_ofText hselection
      rw [Path.isCanonicalAt, hkey.key key rfl opens]
      simpa using ne
  | .selection hselection => by
      have ne := Selection.ne_nil_of_ofText hselection
      have star : isCanonicalKey wildcard.toList = true := by decide
      rw [Path.isCanonicalAt, star]
      simpa using ne
  | .list isList h => by
      obtain ⟨hmembers, literals⟩ := DerivesMembers.areCanonicalAt isList opens chain h
      exact isCanonicalAt_collapse isList h.ne_nil hmembers literals

theorem DerivesMembers.areCanonicalAt {level : Level} {before : Lexeme} {word : List Lexeme}
    {members : List Path} (isList : level ≠ .step) (opens : before.opensStep = true)
    (chain : List.IsChain Neighbours (before :: word)) :
    DerivesMembers level word members → areCanonicalAt level.next members = true ∧
      (level = .steps → literalsLast members = true)
  | .one h => by
      rw [Path.areCanonicalAt, Path.areCanonicalAt, Bool.and_true]
      exact ⟨Derives.isCanonicalAt opens chain h, fun _ => rfl⟩
  | .cons h more => by
      obtain ⟨head, tail⟩ := List.isChain_cons_split.mp chain
      obtain ⟨hmembers, literals⟩ :=
        DerivesMembers.areCanonicalAt isList level.opensStep_separator tail more
      rw [Path.areCanonicalAt, hmembers, Bool.and_true]
      refine ⟨Derives.isCanonicalAt opens head.left_of_append h, ?_⟩
      rintro rfl
      exact literalsLast_cons chain h (literals rfl)

end

/-- A path that lexemes of a whole text denote is canonical. -/
theorem canonical_of_derives {text : String} {word : List Lexeme} {path : Path}
    (hlex : tokenize text = .ok (word ++ [.finish])) (h : Derives .each word path) :
    Canonical path := by
  obtain ⟨after, rest, hlexes, -⟩ := tokenize_eq_ok_iff.mp hlex
  exact h.isCanonicalAt rfl (hlexes.isChain .comma rfl nofun)

/-- A path that is read is canonical, so its text is read as the same path; and the normal form
of a text is its own normal form. -/
theorem canonical_of_parse {text : String} {path : Path} (h : parse text = .ok path) :
    Canonical path ∧ parse path.render = .ok path ∧
      Command.check text = .ok path.render ∧
      Command.check path.render = .ok path.render := by
  obtain ⟨word, hlex, hderives⟩ := derives_of_parse h
  have canonical : Canonical path := canonical_of_derives hlex hderives
  obtain ⟨normal, hnormal, hsame⟩ := derives_render canonical
  have again : parse path.render = .ok path := parse_of_derives hnormal hsame
  refine ⟨canonical, again, ?_, ?_⟩
  · rw [Command.check, Command.readPath, h]
    rfl
  · rw [Command.check, Command.readPath, again]
    rfl

theorem canonical_of_parse_blanks :
    let path : Path := .each [.steps [.field wildcard (some [.position (-1)]),
      .lookup (.any [.field "a  b" none, .literal ">  "]), .literal "c.d "], .field "e#" none]
    parse " [ -1 ] . < a  b | #\\>  > . #\\c.d , e# " = .ok path ∧ Canonical path ∧
      Command.check path.render = .ok path.render := by
  intro path
  have hparse : parse " [ -1 ] . < a  b | #\\>  > . #\\c.d , e# " = .ok path := by decide +kernel
  obtain ⟨canonical, -, -, again⟩ := canonical_of_parse hparse
  exact ⟨hparse, canonical, again⟩

end TreeTable.Path
