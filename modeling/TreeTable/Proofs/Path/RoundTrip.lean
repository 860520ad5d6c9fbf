import TreeTable.Path.Canonical
import TreeTable.Path.Printer
import TreeTable.Proofs.Path.Acceptance
import TreeTable.Proofs.Path.Lexing
import TreeTable.Proofs.Selection.Text
import TreeTable.Proofs.Text.Span

/-! # Canonical paths are read as they are written

Each of the three readers of lexemes undoes the writing of its lexeme when what follows cannot
continue it. A literal is continued by anything but a separator other than a dot or the end
of a lookup, a key by anything but a delimiter. So the characters of a canonical path split
into lexemes that denote it, whatever stands behind it, as long as that ends its last step.
-/

namespace TreeTable.Path

open Outcome Text

/-- What may stand behind any path: nothing, or a character that ends literals. -/
def EndsPath (rest : List Char) : Prop := ∀ c ∈ rest.head?, endsLiteral c = true

/-- What may stand behind a step that is no literal. -/
def EndsStep (rest : List Char) : Prop := ∀ c ∈ rest.head?, endsLiteral c = true ∨ c = '.'

theorem EndsPath.nil : EndsPath [] := by
  intro c hc
  cases hc

theorem EndsPath.endsStep {rest : List Char} (h : EndsPath rest) : EndsStep rest :=
  fun c hc => .inl (h c hc)

theorem endsLiteral_iff {c : Char} :
    endsLiteral c = true ↔ c = ',' ∨ c = '&' ∨ c = '|' ∨ c = '>' := by
  simp [endsLiteral, or_assoc]

theorem EndsStep.isDelimiter {rest : List Char} (h : EndsStep rest) :
    ∀ c ∈ rest.head?, isDelimiter c = true := by
  intro c hc
  rcases h c hc with hend | rfl
  · rcases endsLiteral_iff.mp hend with rfl | rfl | rfl | rfl <;> rfl
  · rfl

/-- A character that is no backslash and does not end the literal is taken as it is. -/
theorem readLiteral_cons {c : Char} (rest : List Char) (noEscape : c ≠ '\\')
    (noEnd : endsLiteral c = false) :
    readLiteral (c :: rest) = (c :: (readLiteral rest).1, (readLiteral rest).2) := by
  rw [readLiteral.eq_def]
  split
  next h => cases h
  next h => exact absurd (List.cons.inj h).1 noEscape
  next h => exact absurd (List.cons.inj h).1 noEscape
  next h =>
    obtain ⟨rfl, rfl⟩ := List.cons.inj h
    rw [if_neg (by simp [noEnd])]

theorem readLiteral_of_endsPath {rest : List Char} (h : EndsPath rest) :
    readLiteral rest = ([], rest) := by
  cases rest with
  | nil => rfl
  | cons c rest =>
      have hc : endsLiteral c = true := h c rfl
      rcases endsLiteral_iff.mp hc with rfl | rfl | rfl | rfl <;> rfl

/-- Reading an escaped literal gives its text. -/
theorem readLiteral_escapeLiteral (text : List Char) {rest : List Char} (h : EndsPath rest) :
    readLiteral (escapeLiteral text ++ rest) = (text, rest) := by
  induction text with
  | nil => exact readLiteral_of_endsPath h
  | cons c text ih =>
      have split : escapeLiteral (c :: text) =
          (if isLiteralSpecial c then ['\\', c] else [c]) ++ escapeLiteral text := rfl
      rw [split]
      split
      next hspecial =>
        simp only [List.cons_append, List.nil_append, readLiteral, ih]
      next hspecial =>
        simp only [isLiteralSpecial, Bool.or_eq_true, beq_iff_eq, not_or] at hspecial
        obtain ⟨⟨⟨⟨h1, h2⟩, h3⟩, h4⟩, h5⟩ := hspecial
        have noEnd : endsLiteral c = false := by simp [endsLiteral, h1, h2, h3, h4]
        rw [List.singleton_append, List.cons_append, readLiteral_cons _ h5 noEnd, ih]

/-- A character that is neither a backslash nor a slash is part of the pattern. -/
theorem readPattern_cons {c : Char} (rest : List Char) (noEscape : c ≠ '\\') (noSlash : c ≠ '/') :
    readPattern (c :: rest) = (readPattern rest).map fun read => (c :: read.1, read.2) := by
  rw [readPattern.eq_def]
  split
  next h => cases h
  next h => exact absurd (List.cons.inj h).1 noSlash
  next h => exact absurd (List.cons.inj h).1 noEscape
  next h => exact absurd (List.cons.inj h).1 noEscape
  next h =>
    obtain ⟨rfl, rfl⟩ := List.cons.inj h
    rfl

theorem readPattern_escaped (c : Char) (rest : List Char) :
    readPattern ('\\' :: c :: rest) = (readPattern rest).map fun read =>
      (if c = '/' then c :: read.1 else '\\' :: c :: read.1, read.2) := by
  rw [readPattern]

theorem escapePattern_cons (c : Char) (source : List Char) :
    escapePattern (c :: source) =
      (if c = '/' then ['\\', '/'] else [c]) ++ escapePattern source := rfl

/-- Reading an escaped pattern gives its source, up to the closing slash. -/
theorem readPattern_escapePattern {source : List Char} (h : isCanonicalSource source = true)
    (rest : List Char) :
    readPattern (escapePattern source ++ '/' :: rest) = some (source, rest) := by
  fun_induction isCanonicalSource source with
  | case1 => rfl
  | case2 => cases h
  | case3 c source ih =>
      rw [Bool.and_eq_true, bne_iff_ne] at h
      obtain ⟨noSlash, hsource⟩ := h
      rw [escapePattern_cons, escapePattern_cons, if_neg (by decide), if_neg noSlash,
        List.append_assoc, List.append_assoc, List.singleton_append, List.singleton_append,
        readPattern_escaped, ih hsource, Option.map_some, if_neg noSlash]
  | case4 c source single pair ih =>
      have noEscape : c ≠ '\\' := by
        rintro rfl
        cases source with
        | nil => exact single rfl rfl
        | cons d source => exact pair d source rfl rfl
      rw [escapePattern_cons, List.append_assoc]
      by_cases hslash : c = '/'
      · subst hslash
        rw [if_pos rfl, List.cons_append, List.singleton_append, readPattern_escaped, ih h,
          Option.map_some, if_pos rfl]
      · rw [if_neg hslash, List.singleton_append, readPattern_cons _ noEscape hslash, ih h,
          Option.map_some]

theorem readIndex_append {text : List Char} (h : ∀ c ∈ text, c ≠ '[' ∧ c ≠ ']')
    (rest : List Char) : readIndex (text ++ ']' :: rest) = .ok (text, rest) := by
  induction text with
  | nil => rfl
  | cons c text ih =>
      obtain ⟨hopen, hclose⟩ := h c List.mem_cons_self
      rw [List.cons_append, readIndex, if_neg hclose, if_neg hopen,
        ih fun d hd => h d (List.mem_cons_of_mem _ hd)]
      rfl

/-- What may stand behind the characters of a path. -/
def MayFollow : Path → List Char → Prop
  | field _ _, rest => EndsStep rest
  | keys _, rest => EndsStep rest
  | lookup _, rest => EndsStep rest
  | _, rest => EndsPath rest

theorem EndsPath.mayFollow {rest : List Char} (h : EndsPath rest) (path : Path) :
    MayFollow path rest := by
  cases path with
  | field key selection => exact h.endsStep
  | keys pattern => exact h.endsStep
  | lookup inner => exact h.endsStep
  | _ => exact h

/-- Whether a path is written with lexemes that denote it at a level. -/
def Spelled (level : Level) (path : Path) : Prop :=
  ∃ word, Derives level word path ∧
    ∀ rest, MayFollow path rest → Lexes true (renderChars path ++ rest) word false rest

/-- A lexeme that does not begin with a blank. -/
theorem Lexes.single {atStep : Bool} {c : Char} {cs rest : List Char} {l : Lexeme}
    (noBlank : isBlank c = false) (h : ReadsAs atStep (c :: cs) l rest) (notEnd : l ≠ .finish) :
    Lexes atStep (c :: cs) [l] l.opensStep rest := by
  have start : trimStart (c :: cs) = c :: cs := by
    apply trimStart_of_head
    rintro d ⟨⟩
    exact noBlank
  refine .cons ?_ notEnd (.nil _ _)
  rw [start]
  exact h

theorem spelled_literal (text : String) : Spelled .step (literal text) := by
  refine ⟨[.literal text], .literal text, ?_⟩
  intro rest hrest
  have hread : ReadsAs true ('#' :: (escapeLiteral text.toList ++ rest)) _ _ := .literal _ rfl
  rw [readLiteral_escapeLiteral text.toList hrest, String.ofList_toList] at hread
  exact Lexes.single rfl hread nofun

theorem spelled_keys {pattern : Pattern}
    (h : isCanonicalSource pattern.source.toList = true) : Spelled .step (keys pattern) := by
  refine ⟨[.pattern pattern.source], .keys pattern, ?_⟩
  intro rest _
  have hread : ReadsAs true ('/' :: (escapePattern pattern.source.toList ++ '/' :: rest)) _ rest :=
    .pattern rfl (readPattern_escapePattern h rest)
  rw [String.ofList_toList] at hread
  rw [renderChars, List.cons_append, List.append_assoc, List.singleton_append]
  exact Lexes.single rfl hread nofun

theorem isCanonicalKey_iff {key : List Char} :
    isCanonicalKey key = true ↔
      ∃ first tail, key = first :: tail ∧ (first ≠ '#' ∧ first ≠ '/' ∧ first ≠ '!') ∧
        isBlank first = false ∧ (∀ c ∈ key.getLast?, isBlank c = false) ∧
        ∀ c ∈ key, isDelimiter c = false := by
  cases key with
  | nil => simp [isCanonicalKey]
  | cons first tail =>
      simp only [isCanonicalKey, Bool.and_eq_true, bne_iff_ne, Bool.not_eq_true',
        List.any_eq_false, Option.any_eq_false, Bool.not_eq_true]
      constructor
      · rintro ⟨⟨⟨⟨⟨hash, slash⟩, bang⟩, hfirst⟩, hlast⟩, hall⟩
        exact ⟨first, tail, rfl, ⟨hash, slash, bang⟩, hfirst, hlast, hall⟩
      · rintro ⟨_, _, heq, ⟨hash, slash, bang⟩, hfirst, hlast, hall⟩
        obtain ⟨rfl, rfl⟩ := List.cons.inj heq
        exact ⟨⟨⟨⟨⟨hash, slash⟩, bang⟩, hfirst⟩, hlast⟩, hall⟩

/-- A canonical key is read up to a delimiter behind it. -/
theorem lexes_key {key : String} (h : isCanonicalKey key.toList = true) {rest : List Char}
    (hrest : ∀ c ∈ rest.head?, isDelimiter c = true) :
    Lexes true (key.toList ++ rest) [.name key] false rest := by
  obtain ⟨first, tail, hkey, noSign, hfirst, hlast, hall⟩ := isCanonicalKey_iff.mp h
  have keyChars : ∀ c ∈ key.toList, (!isDelimiter c) = true := by
    intro c hc
    rw [hall c hc]
    rfl
  have stop : ∀ c ∈ rest.head?, (!isDelimiter c) = false := by
    intro c hc
    rw [hrest c hc]
    rfl
  have hread : ReadsAs true (first :: (tail ++ rest)) _ _ :=
    .name (hall first (hkey ▸ List.mem_cons_self)) fun _ => noSign
  rw [← List.cons_append, ← hkey, takeWhile_append_stop keyChars stop,
    dropWhile_append_stop keyChars stop, trimEnd_of_getLast hlast, String.ofList_toList] at hread
  rw [hkey] at hread ⊢
  exact Lexes.single hfirst hread nofun

theorem spelled_field {key : String} (h : isCanonicalKey key.toList = true) :
    Spelled .step (field key none) := by
  refine ⟨[.name key], .field key, ?_⟩
  intro rest hrest
  rw [renderChars, selectionChars, List.append_nil]
  exact lexes_key h (EndsStep.isDelimiter hrest)

theorem spelled_selected {key : String} (h : isCanonicalKey key.toList = true)
    {selection : Selection} (ne : selection ≠ []) :
    Spelled .step (field key (some selection)) := by
  refine ⟨[.name key, .index selection.render], .selected key (Selection.ofText_render ne), ?_⟩
  intro rest hrest
  have bracket : ∀ c ∈ ('[' :: (selection.render.toList ++ ']' :: rest)).head?,
      isDelimiter c = true := by
    rintro c ⟨⟩
    rfl
  have noBracket : ∀ c ∈ selection.render.toList, c ≠ '[' ∧ c ≠ ']' :=
    fun c hc => Selection.ne_bracket_of_mem_render hc
  have hindex : ReadsAs false ('[' :: (selection.render.toList ++ ']' :: rest)) _ rest :=
    .index (readIndex_append noBracket rest)
  rw [String.ofList_toList] at hindex
  rw [renderChars, selectionChars, List.append_assoc, List.cons_append, List.append_assoc,
    List.singleton_append]
  exact (lexes_key h bracket).append (Lexes.single rfl hindex nofun)

theorem spelled_lookup {inner : Path} (h : Spelled .each inner) :
    Spelled .step (lookup inner) := by
  obtain ⟨word, hderives, hlexes⟩ := h
  refine ⟨.lookupStart :: (word ++ [.lookupEnd]), .lookup hderives, ?_⟩
  intro rest _
  have closing : EndsPath ('>' :: rest) := by
    rintro c ⟨⟩
    rfl
  have inside := hlexes ('>' :: rest) (closing.mayFollow inner)
  have last : Lexes false ('>' :: rest) [.lookupEnd] false rest :=
    Lexes.single rfl (.lookupEnd rest) nofun
  rw [renderChars, List.cons_append, List.append_assoc, List.singleton_append]
  exact (Lexes.single rfl (ReadsAs.lookupStart (renderChars inner ++ '>' :: rest)) nofun).append
    (inside.append last)

/-- The character of a separator. -/
def Level.sign : Level → Char
  | each => ','
  | all => '&'
  | any => '|'
  | steps => '.'
  | step => '.'

theorem Level.readsAs_sign (level : Level) (rest : List Char) :
    ReadsAs false (level.sign :: rest) level.separator rest := by
  cases level with
  | each => exact .comma rest
  | all => exact .ampersand rest
  | any => exact .bar rest
  | steps => exact .dot rest
  | step => exact .dot rest

theorem Level.lexes_sign (level : Level) (rest : List Char) :
    Lexes false (level.sign :: rest) [level.separator] true rest := by
  cases level <;> exact Lexes.single rfl (Level.readsAs_sign _ rest) nofun

/-- A separator may stand behind each member of a list that others follow, since no literal
stands before the last step of a sequence. -/
theorem mayFollow_sign {level : Level} {member next : Path} {others : List Path}
    (hmember : isCanonicalAt level.next member = true)
    (literals : level = .steps → literalsLast (member :: next :: others) = true)
    (isList : level ≠ .step) (rest : List Char) : MayFollow member (level.sign :: rest) := by
  cases level with
  | each | all | any =>
      apply EndsPath.mayFollow
      rintro c ⟨⟩
      rfl
  | steps =>
      have dot : EndsStep ('.' :: rest) := by
        rintro c ⟨⟩
        exact .inr rfl
      -- The other kinds are not canonical as steps, and a literal would not be the last one.
      cases member with
      | field key selection => exact dot
      | keys pattern => exact dot
      | lookup inner => exact dot
      | literal text => cases literals rfl
      | inverse inner => exact absurd hmember (by simp [isCanonicalAt])
      | any _ | all _ | each _ | steps _ =>
          exact absurd hmember (by simp [isCanonicalAt, Level.next, Level.depth])
  | step => exact absurd rfl isList

/-- Whether a list is written with lexemes that denote its members at a level. -/
def SpelledList (level : Level) (members : List Path) : Prop :=
  ∃ word, DerivesMembers level word members ∧
    ∀ rest, EndsPath rest → Lexes true (renderJoined level.sign members ++ rest) word false rest

theorem SpelledList.one {level : Level} {member : Path} (h : Spelled level.next member) :
    SpelledList level [member] := by
  obtain ⟨word, hderives, hlexes⟩ := h
  refine ⟨word, .one hderives, ?_⟩
  intro rest hrest
  exact hlexes rest (hrest.mayFollow member)

theorem SpelledList.cons {level : Level} {member next : Path} {others : List Path}
    (h : Spelled level.next member) (more : SpelledList level (next :: others))
    (follows : ∀ rest, MayFollow member (level.sign :: rest)) :
    SpelledList level (member :: next :: others) := by
  obtain ⟨word, hderives, hlexes⟩ := h
  obtain ⟨words, hmore, hlexesMore⟩ := more
  refine ⟨word ++ level.separator :: words, .cons hderives hmore, ?_⟩
  intro rest hrest
  have tail := (level.lexes_sign _).append (hlexesMore rest hrest)
  rw [renderJoined, List.append_assoc, List.cons_append]
  · exact (hlexes _ (follows _)).append tail
  · intro hnil
    cases hnil

theorem Level.depth_next {level : Level} (isList : level ≠ .step) :
    level.next.depth = level.depth + 1 := by
  cases level with
  | step => exact absurd rfl isList
  | _ => rfl

theorem Level.eq_of_depth_eq {first second : Level} (h : first.depth = second.depth) :
    first = second := by
  cases first <;> cases second <;> first | rfl | cases h

/-- What denotes a path at some level denotes it at every looser one. -/
theorem Derives.loosen {level tighter : Level} {word : List Lexeme} {path : Path}
    (h : Derives tighter word path) (looser : level.depth ≤ tighter.depth) :
    Derives level word path := by
  by_cases heq : level.depth = tighter.depth
  · rw [Level.eq_of_depth_eq heq]
    exact h
  · have isList : level ≠ .step := by
      rintro rfl
      cases tighter <;> simp [Level.depth] at heq looser
    have next := Level.depth_next isList
    have closer : Derives level.next word path := h.loosen (by omega)
    exact closer.lift isList
  termination_by tighter.depth - level.depth

theorem collapse_of_two_le (wrap : List Path → Path) {members : List Path}
    (two : 2 ≤ members.length) : collapse wrap members = wrap members := by
  match members, two with
  | _ :: _ :: _, _ => rfl

theorem renderChars_wrap (level : Level) (members : List Path) :
    renderChars (level.wrap members) = renderJoined level.sign members := by
  cases level <;> rw [Level.wrap, renderChars, Level.sign]

/-- A list of two or more members at a level is a path at every looser level. -/
theorem SpelledList.wrap {level inner : Level} {members : List Path}
    (h : SpelledList inner members) (isList : inner ≠ .step) (two : 2 ≤ members.length)
    (looser : level.depth ≤ inner.depth) : Spelled level (inner.wrap members) := by
  obtain ⟨word, hderives, hlexes⟩ := h
  have whole : Derives inner word (inner.wrap members) := by
    rw [← collapse_of_two_le inner.wrap two]
    exact .list isList hderives
  refine ⟨word, whole.loosen looser, ?_⟩
  intro rest hrest
  rw [renderChars_wrap]
  apply hlexes
  cases inner <;> exact hrest

theorem Spelled.ofStep {path : Path} (h : Spelled .step path) (level : Level) :
    Spelled level path := by
  obtain ⟨word, hderives, hlexes⟩ := h
  exact ⟨word, hderives.ofStep level, hlexes⟩

mutual

/-- A canonical path is written with lexemes that denote it. -/
theorem spelled_of_isCanonicalAt (level : Level) :
    (path : Path) → isCanonicalAt level path = true → Spelled level path
  | literal text, _ => (spelled_literal text).ofStep level
  | field key none, h => by
      rw [isCanonicalAt, Bool.and_eq_true] at h
      exact (spelled_field h.1).ofStep level
  | field key (some selection), h => by
      rw [isCanonicalAt, Bool.and_eq_true, bne_iff_ne] at h
      have ne : selection ≠ [] := fun heq => h.2 (congrArg some heq)
      exact (spelled_selected h.1 ne).ofStep level
  | keys pattern, h => by
      rw [isCanonicalAt] at h
      exact (spelled_keys h).ofStep level
  | any branches, h => by
      simp only [isCanonicalAt, Bool.and_eq_true, decide_eq_true_eq] at h
      obtain ⟨⟨looser, two⟩, hmembers⟩ := h
      have list := spelledList_of_areCanonicalAt .any branches hmembers (by omega) (by decide)
        nofun
      exact list.wrap (by decide) two looser
  | all branches, h => by
      simp only [isCanonicalAt, Bool.and_eq_true, decide_eq_true_eq] at h
      obtain ⟨⟨looser, two⟩, hmembers⟩ := h
      have list := spelledList_of_areCanonicalAt .all branches hmembers (by omega) (by decide)
        nofun
      exact list.wrap (by decide) two looser
  | each branches, h => by
      simp only [isCanonicalAt, Bool.and_eq_true, decide_eq_true_eq] at h
      obtain ⟨⟨looser, two⟩, hmembers⟩ := h
      have list := spelledList_of_areCanonicalAt .each branches hmembers (by omega) (by decide)
        nofun
      exact list.wrap (by decide) two looser
  | lookup inner, h => by
      rw [isCanonicalAt] at h
      exact (spelled_lookup (spelled_of_isCanonicalAt .each inner h)).ofStep level
  | inverse inner, h => by
      simp [isCanonicalAt] at h
  | steps path, h => by
      simp only [isCanonicalAt, Bool.and_eq_true, decide_eq_true_eq] at h
      obtain ⟨⟨⟨looser, two⟩, literals⟩, hmembers⟩ := h
      have list := spelledList_of_areCanonicalAt .steps path hmembers (by omega) (by decide)
        fun _ => literals
      exact list.wrap (by decide) two looser

theorem spelledList_of_areCanonicalAt (level : Level) :
    (members : List Path) → areCanonicalAt level.next members = true → 0 < members.length →
      level ≠ .step → (level = .steps → literalsLast members = true) →
        SpelledList level members
  | [], _, ne, _, _ => absurd ne (Nat.lt_irrefl 0)
  | [member], h, _, _, _ => by
      simp only [areCanonicalAt, Bool.and_true] at h
      exact .one (spelled_of_isCanonicalAt level.next member h)
  | member :: next :: others, h, _, isList, literals => by
      rw [areCanonicalAt, Bool.and_eq_true] at h
      obtain ⟨hmember, hothers⟩ := h
      have tailLiterals : level = .steps → literalsLast (next :: others) = true := by
        intro hsteps
        have whole := literals hsteps
        cases member <;> simp [literalsLast] at whole <;> exact whole
      have tail := spelledList_of_areCanonicalAt level (next :: others) hothers
        (Nat.zero_lt_succ _) isList tailLiterals
      exact .cons (spelled_of_isCanonicalAt level.next member hmember) tail
        (mayFollow_sign hmember literals isList)

end

/-- The lexemes that a canonical path is written with denote it. -/
theorem derives_render {path : Path} (h : Canonical path) :
    ∃ word, tokenize path.render = .ok (word ++ [.finish]) ∧ Derives .each word path := by
  obtain ⟨word, hderives, hlexes⟩ := spelled_of_isCanonicalAt .each path h
  have lexed := hlexes [] (EndsPath.nil.mayFollow path)
  refine ⟨word, tokenize_eq_ok_iff.mpr ⟨false, [], ?_, rfl⟩, hderives⟩
  rw [render, String.toList_ofList]
  rwa [List.append_nil] at lexed

/-- Reading what a canonical path is written as gives the path. -/
theorem parse_render {path : Path} (h : Canonical path) : parse path.render = .ok path := by
  obtain ⟨word, hlex, hderives⟩ := derives_render h
  exact parse_of_derives hlex hderives

theorem parse_render_layered :
    let path : Path := .each [
      .all [
        .steps [.field "first name" (some [.range (-3) (-1) false, .position 0]),
          .keys ((Pattern.ofSource? "^a/b").get (by decide +kernel)),
          .lookup (.each [.field "x" none, .literal "a, b"]), .literal "c.d > e\\"],
        .any [.literal "", .field wildcard none]],
      .field "2" none]
    path.render = "first name[-3...-1,0]./^a\\/b/.<x,#a\\, b>.#c.d \\> e\\\\&#|*,2" ∧
      Canonical path ∧ parse path.render = .ok path := by
  intro path
  have canonical : Canonical path := by decide
  exact ⟨by decide +kernel, canonical, parse_render canonical⟩

end TreeTable.Path
