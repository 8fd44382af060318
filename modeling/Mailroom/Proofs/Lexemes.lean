import Mathlib
import Mailroom.Proofs.Text
import Mailroom.Source.Token

/-!
# What a text is cut into

The pieces of a text are described here by what they look like and by what may stand behind them.  A
number, a name or a comment of one line goes as far as it can, a block comment ends at the first
`*/`, an operator of two characters wins over one of one, and a comment wins over a slash.  Nothing
of this speaks of how a text is read.

Reading finds exactly these pieces.  So at each place there is one piece or none, and going through
a text is an induction over its pieces.

- `Comment`, `Gap`, `Lexed`: the pieces.  `Stray`: no piece is there.
- `lexeme_of_gap`, `lexeme_of_lexed`, `lexeme_cases`: reading finds them.
- `piece_induction`: going through a text.
- `tokensFrom_gap`, `tokensFrom_lexed`, `tokensFrom_stray`: what each piece does to the tokens.
-/

namespace Mailroom.Source

open Text

/-! ## Pieces -/

/-- The end of a block comment. -/
def closing : List Char := ['*', '/']

/-- A comment with what stands behind it. -/
inductive Comment : List Char → List Char → Prop
  /-- Two slashes and the rest of the line. -/
  | line {body behind : List Char} (hbody : '\n' ∉ body) (hend : ∀ c ∈ behind.head?, c = '\n') :
      Comment ('/' :: '/' :: body) behind
  /-- All up to the first end of a comment. -/
  | block {body behind : List Char} (hbody : ¬ closing <:+: body) :
      Comment ('/' :: '*' :: (body ++ closing)) behind

/-- A blank or a line end. -/
def IsSpace (c : Char) : Prop :=
  c = ' ' ∨ c = '\t' ∨ c = '\r' ∨ c = '\n'

/-- A piece that is no token, with what stands behind it. -/
inductive Gap : List Char → List Char → Prop
  | space {c : Char} {behind : List Char} (hc : IsSpace c) : Gap [c] behind
  | comment {piece behind : List Char} (h : Comment piece behind) : Gap piece behind

/-- Some piece of a text in front of the rest of it. -/
def Opens (piece : List Char → List Char → Prop) (cs : List Char) : Prop :=
  ∃ front behind, cs = front ++ behind ∧ piece front behind

/-- The characters of a token with what stands behind them. -/
inductive Lexed : TokenKind → List Char → List Char → Prop
  | number {c : Char} {cs behind : List Char} (hc : isDecimalDigit c = true)
      (hcs : ∀ d ∈ cs, isDecimalDigit d = true)
      (hend : ∀ d ∈ behind.head?, isDecimalDigit d = false) : Lexed .number (c :: cs) behind
  | name {c : Char} {cs behind : List Char} (hc : isNameStart c = true)
      (hcs : ∀ d ∈ cs, isWordChar d = true) (hend : ∀ d ∈ behind.head?, isWordChar d = false)
      (hword : String.ofList (c :: cs) ∉ keywords) : Lexed .name (c :: cs) behind
  | keyword {c : Char} {cs behind : List Char} (hc : isNameStart c = true)
      (hcs : ∀ d ∈ cs, isWordChar d = true) (hend : ∀ d ∈ behind.head?, isWordChar d = false)
      (hword : String.ofList (c :: cs) ∈ keywords) : Lexed .keyword (c :: cs) behind
  | longOp {c d : Char} {behind : List Char} (h : (c, d) ∈ longOperators) :
      Lexed .op [c, d] behind
  | shortOp {c : Char} {behind : List Char} (h : c ∈ shortOperators)
      (hlong : ∀ d ∈ behind.head?, (c, d) ∉ longOperators)
      (hcomment : ¬ Opens Comment (c :: behind)) : Lexed .op [c] behind

lemma Gap.ne_nil {piece behind : List Char} (h : Gap piece behind) : piece ≠ [] := by
  rintro rfl
  obtain ⟨⟩ | ⟨⟨⟩⟩ := h

lemma Lexed.ne_nil {kind : TokenKind} {piece behind : List Char} (h : Lexed kind piece behind) :
    piece ≠ [] := by
  rintro rfl
  cases h

/-- A piece at the start of a text has the first character of the text. -/
lemma Opens.cons {piece : List Char → List Char → Prop} {c : Char} {cs : List Char}
    (h : Opens piece (c :: cs)) (hne : ∀ front behind, piece front behind → front ≠ []) :
    ∃ front behind, cs = front ++ behind ∧ piece (c :: front) behind := by
  obtain ⟨front, behind, heq, hpiece⟩ := h
  cases front with
  | nil => exact absurd rfl (hne _ _ hpiece)
  | cons d front =>
      obtain ⟨rfl, rfl⟩ := List.cons.inj heq
      exact ⟨front, behind, rfl, hpiece⟩

/-- Neither a token nor a gap starts here. -/
structure Stray (cs : List Char) : Prop where
  token : ∀ kind, ¬ Opens (Lexed kind) cs
  gap : ¬ Opens Gap cs

/-! ## Comments -/

section Comments

variable {body behind piece : List Char}

lemma commentSize?_closing (hbody : ¬ closing <:+: body) (behind : List Char) :
    commentSize? (body ++ closing ++ behind) = some (body.length + 2) := by
  induction body with
  | nil => rfl
  | cons c body ih =>
      rw [List.infix_cons_iff, not_or] at hbody
      have hopen : ¬ (c = '*' ∧ (body ++ closing ++ behind).head? = some '/') := by
        rintro ⟨rfl, hhead⟩
        cases body with
        | nil => simp [closing] at hhead
        | cons d body =>
            obtain rfl : d = '/' := by simpa using hhead
            exact hbody.1 ⟨body, rfl⟩
      rw [List.cons_append, List.cons_append, commentSize?, if_neg hopen, ih hbody.2]
      rfl

lemma exists_of_commentSize? {cs : List Char} {size : Nat} (h : commentSize? cs = some size) :
    ∃ body behind, cs = body ++ closing ++ behind ∧ ¬ closing <:+: body ∧
      size = body.length + 2 := by
  induction cs generalizing size with
  | nil => cases h
  | cons c cs ih =>
      rw [commentSize?] at h
      split at h
      · rename_i hclosed
        obtain ⟨rfl, hhead⟩ := hclosed
        obtain ⟨behind, rfl⟩ : ∃ behind, cs = '/' :: behind := by
          cases cs with
          | nil => cases hhead
          | cons d cs => exact ⟨cs, by simpa using hhead⟩
        cases h
        exact ⟨[], behind, rfl, by simp [closing], rfl⟩
      · rename_i hopen
        obtain ⟨size, hsize, rfl⟩ := Option.map_eq_some_iff.mp h
        obtain ⟨body, behind, rfl, hbody, rfl⟩ := ih hsize
        refine ⟨c :: body, behind, rfl, ?_, rfl⟩
        rw [List.infix_cons_iff, not_or]
        refine ⟨?_, hbody⟩
        rintro ⟨more, hmore⟩
        -- otherwise the comment would have ended here
        obtain ⟨rfl, rfl⟩ : '*' = c ∧ '/' :: more = body := by simpa [closing] using hmore
        exact hopen ⟨rfl, rfl⟩

/-- Characters of a class are taken up to the first one out of it. -/
lemma takeWhile_append_stop {p : Char → Bool} {cs : List Char} (hcs : ∀ c ∈ cs, p c = true)
    (hend : ∀ c ∈ behind.head?, p c = false) : (cs ++ behind).takeWhile p = cs := by
  rw [List.takeWhile_append_of_pos hcs]
  cases behind with
  | nil => simp
  | cons d behind => simp [hend d rfl]

lemma head?_dropWhile_stop (p : Char → Bool) (cs : List Char) :
    ∀ c ∈ (cs.dropWhile p).head?, p c = false := by
  intro c hc
  have := List.head?_dropWhile_not p cs
  rw [Option.mem_def.mp hc] at this
  simpa using this

lemma comment?_of_comment {c : Char} {cs : List Char} (h : Comment (c :: cs) behind) :
    comment? c (cs ++ behind) = some (cs.length + 1) := by
  cases h with
  | @line body _ hbody hend =>
      have htake : (body ++ behind).takeWhile (· ≠ '\n') = body :=
        takeWhile_append_stop (fun c hc => by simpa using ne_of_mem_of_not_mem hc hbody)
          (fun c hc => by simp [hend c hc])
      simp only [comment?, List.cons_append, if_true, htake, List.length_cons, Option.some.injEq]
      omega
  | @block body _ hbody =>
      have hsize := commentSize?_closing hbody behind
      simp only [comment?, List.cons_append, if_true, hsize, Option.map_some, List.length_cons,
        List.length_append]
      rfl

lemma exists_of_comment? {c : Char} {cs : List Char} {size : Nat}
    (h : comment? c cs = some size) :
    ∃ piece behind, c :: cs = piece ++ behind ∧ Comment piece behind ∧ size = piece.length := by
  unfold comment? at h
  split at h
  · rename_i hc
    obtain rfl := hc
    split at h
    · rename_i rest
      cases h
      refine ⟨'/' :: '/' :: rest.takeWhile (· ≠ '\n'), rest.dropWhile (· ≠ '\n'), ?_,
        .line ?_ ?_, ?_⟩
      · simp
      · intro hmem
        simpa using List.mem_takeWhile_imp hmem
      · intro c hc
        simpa using head?_dropWhile_stop (· ≠ '\n') rest c hc
      · simp only [List.length_cons]
        omega
    · rename_i rest
      obtain ⟨size, hsize, rfl⟩ := Option.map_eq_some_iff.mp h
      obtain ⟨body, behind, rfl, hbody, rfl⟩ := exists_of_commentSize? hsize
      exact ⟨'/' :: '*' :: (body ++ closing), behind, by simp, .block hbody, by simp [closing]⟩
    · cases h
  · cases h

/-- A comment starts where one is read. -/
lemma comment?_eq_none_iff {c : Char} {cs : List Char} :
    comment? c cs = none ↔ ¬ Opens Comment (c :: cs) := by
  constructor
  · intro hnone hopens
    obtain ⟨front, behind, rfl, hcomment⟩ := hopens.cons fun _ _ h => (Gap.comment h).ne_nil
    rw [comment?_of_comment hcomment] at hnone
    cases hnone
  · intro hnot
    cases hcomment : comment? c cs with
    | none => rfl
    | some size =>
        obtain ⟨piece, behind, heq, hpiece, -⟩ := exists_of_comment? hcomment
        exact absurd ⟨piece, behind, heq, hpiece⟩ hnot

lemma comment?_of_ne {c : Char} (hc : c ≠ '/') (cs : List Char) : comment? c cs = none := by
  unfold comment?
  exact if_neg hc

end Comments

/-! ## Classes of characters -/

/-- Decimal digits of ASCII stand together, and all others are far behind. -/
lemma isDecimalDigit_ascii {c : Char} (h : isDecimalDigit c = true) :
    (48 ≤ c.toNat ∧ c.toNat ≤ 57) ∨ 128 ≤ c.toNat := by
  obtain ⟨nought, hmem, -, hle, hlt⟩ := exists_zero_of_isDecimalDigit h
  have hzeros : ∀ nought ∈ digitZeros, nought = 48 ∨ 128 ≤ nought := by decide
  rcases hzeros nought hmem with rfl | hfar
  · left
    omega
  · right
    omega

lemma isNameStart_ascii {c : Char} (h : isNameStart c = true) :
    (65 ≤ c.toNat ∧ c.toNat ≤ 90) ∨ c.toNat = 95 ∨ (97 ≤ c.toNat ∧ c.toNat ≤ 122) := by
  simp only [isNameStart, Bool.or_eq_true, beq_iff_eq] at h
  rcases h with halpha | rfl
  · simp only [Char.isAlpha, Char.isUpper, Char.isLower, Bool.or_eq_true, Bool.and_eq_true,
      decide_eq_true_eq] at halpha
    rcases halpha with ⟨h1, h2⟩ | ⟨h1, h2⟩
    · exact .inl ⟨h1, h2⟩
    · exact .inr (.inr ⟨h1, h2⟩)
  · exact .inr (.inl rfl)

lemma isDecimalDigit_of_isNameStart {c : Char} (h : isNameStart c = true) :
    isDecimalDigit c = false := by
  by_contra hdigit
  have := isDecimalDigit_ascii (Bool.not_eq_false _ ▸ hdigit)
  have := isNameStart_ascii h
  omega

/-- The characters of operators and spaces are neither digits nor letters. -/
lemma symbols_apart : ∀ c ∈ longOperators.map (·.1) ++ shortOperators ++ [' ', '\t', '\r', '\n'],
    isDecimalDigit c = false ∧ isNameStart c = false := by
  apply forall_mem_of_all
  decide +kernel

lemma isSpace_iff_mem {c : Char} : IsSpace c ↔ c ∈ [' ', '\t', '\r', '\n'] := by
  simp [IsSpace]

lemma IsSpace.isWordChar {c : Char} (h : IsSpace c) : isWordChar c = false := by
  rcases h with rfl | rfl | rfl | rfl <;> decide

lemma IsSpace.isDecimalDigit {c : Char} (h : IsSpace c) : isDecimalDigit c = false :=
  (symbols_apart c (by simp [isSpace_iff_mem.mp h])).1

/-! ## Reading finds the pieces -/

section Reading

variable {c : Char} {cs behind : List Char} {kind : TokenKind}

/-- Where neither a comment nor a digit nor a name starts, operators come first. -/
lemma lexeme_of_symbol (hcomment : comment? c cs = none) (hdigit : isDecimalDigit c = false)
    (hname : isNameStart c = false) :
    lexeme c cs =
      if cs.head?.any (fun d => longOperators.contains (c, d)) then .token .op 2
      else if shortOperators.contains c then .token .op 1
      else if c = '\n' ∨ c = ' ' ∨ c = '\t' ∨ c = '\r' then .gap 1
      else .unknown := by
  simp only [lexeme, hcomment, hdigit, hname, Bool.false_eq_true, if_false]

lemma lexeme_of_name (hc : isNameStart c = true) (cs : List Char) :
    lexeme c cs = .token
      (if keywords.contains (String.ofList (c :: cs.takeWhile isWordChar)) then .keyword else .name)
      (1 + (cs.takeWhile isWordChar).length) := by
  have hslash : c ≠ '/' := by
    rintro rfl
    cases hc
  simp only [lexeme, comment?_of_ne hslash, isDecimalDigit_of_isNameStart hc, hc,
    Bool.false_eq_true, if_false, if_true]

lemma lexeme_of_gap (h : Gap (c :: cs) behind) :
    lexeme c (cs ++ behind) = .gap (cs.length + 1) := by
  cases h with
  | comment hcomment => simp only [lexeme, comment?_of_comment hcomment]
  | space hc =>
      obtain ⟨hdigit, hname⟩ := symbols_apart c (by simp [isSpace_iff_mem.mp hc])
      have hslash : c ≠ '/' := by
        rintro rfl
        simp [IsSpace] at hc
      rw [lexeme_of_symbol (comment?_of_ne hslash _) hdigit hname]
      rcases hc with rfl | rfl | rfl | rfl <;> simp [longOperators, shortOperators]

lemma lexeme_of_lexed (h : Lexed kind (c :: cs) behind) :
    lexeme c (cs ++ behind) = .token kind (cs.length + 1) := by
  cases h with
  | number hc hcs hend =>
      have hslash : c ≠ '/' := by
        rintro rfl
        cases hc
      simp only [lexeme, comment?_of_ne hslash, hc, if_true, takeWhile_append_stop hcs hend,
        Nat.add_comm]
  | name hc hcs hend hword =>
      rw [lexeme_of_name hc, takeWhile_append_stop hcs hend, if_neg (by simpa using hword),
        Nat.add_comm]
  | keyword hc hcs hend hword =>
      rw [lexeme_of_name hc, takeWhile_append_stop hcs hend, if_pos (by simpa using hword),
        Nat.add_comm]
  | @longOp _ d _ hop =>
      obtain ⟨hdigit, hname⟩ := symbols_apart c (by
        simp only [List.mem_append]
        exact .inl (.inl (List.mem_map_of_mem hop)))
      have hslash : c ≠ '/' := by
        rintro rfl
        simp [longOperators] at hop
      rw [lexeme_of_symbol (comment?_of_ne hslash _) hdigit hname, if_pos (by simpa using hop)]
      rfl
  | shortOp hop hlong hcomment =>
      obtain ⟨hdigit, hname⟩ := symbols_apart c (by simp [hop])
      have hnone : ¬ behind.head?.any (fun d => longOperators.contains (c, d)) = true := by
        rw [Option.any_eq_true]
        rintro ⟨d, hd, hmem⟩
        exact hlong d hd (by simpa using hmem)
      rw [List.nil_append, lexeme_of_symbol (comment?_eq_none_iff.mpr hcomment) hdigit hname,
        if_neg hnone, if_pos (by simpa using hop)]
      rfl

/-- What starts with a character: a gap, a token or nothing. -/
lemma lexeme_cases (c : Char) (cs : List Char) :
    Opens Gap (c :: cs) ∨ (∃ kind, Opens (Lexed kind) (c :: cs)) ∨ lexeme c cs = .unknown := by
  cases hcomment : comment? c cs with
  | some size =>
      obtain ⟨piece, behind, heq, hpiece, -⟩ := exists_of_comment? hcomment
      exact .inl ⟨piece, behind, heq, .comment hpiece⟩
  | none =>
      by_cases hdigit : isDecimalDigit c = true
      · refine .inr (.inl ⟨.number, c :: cs.takeWhile isDecimalDigit, cs.dropWhile isDecimalDigit,
          by simp, .number hdigit (fun d hd => List.mem_takeWhile_imp hd) ?_⟩)
        exact head?_dropWhile_stop _ _
      · by_cases hname : isNameStart c = true
        · have heq : c :: cs = c :: cs.takeWhile isWordChar ++ cs.dropWhile isWordChar := by simp
          have hcs : ∀ d ∈ cs.takeWhile isWordChar, isWordChar d = true :=
            fun d hd => List.mem_takeWhile_imp hd
          have hend := head?_dropWhile_stop isWordChar cs
          by_cases hword : String.ofList (c :: cs.takeWhile isWordChar) ∈ keywords
          · exact .inr (.inl ⟨.keyword, _, _, heq, .keyword hname hcs hend hword⟩)
          · exact .inr (.inl ⟨.name, _, _, heq, .name hname hcs hend hword⟩)
        · rw [lexeme_of_symbol hcomment (by simpa using hdigit) (by simpa using hname)]
          split
          · rename_i hlong
            cases cs with
            | nil => simp at hlong
            | cons d cs =>
                exact .inr (.inl ⟨.op, [c, d], cs, rfl, .longOp (by simpa using hlong)⟩)
          · rename_i hlong
            split
            · rename_i hshort
              refine .inr (.inl ⟨.op, [c], cs, rfl, .shortOp (by simpa using hshort) ?_
                (comment?_eq_none_iff.mp hcomment)⟩)
              intro d hd hmem
              exact hlong (by rw [Option.mem_def.mp hd]; simpa using hmem)
            · split
              · rename_i hspace
                exact .inl ⟨[c], cs, rfl, .space (by simp only [IsSpace]; tauto)⟩
              · exact .inr (.inr rfl)

lemma lexeme_eq_unknown_iff : lexeme c cs = .unknown ↔ Stray (c :: cs) := by
  constructor
  · intro hunknown
    refine ⟨fun kind hopens => ?_, fun hopens => ?_⟩
    · obtain ⟨front, behind, rfl, hlexed⟩ := hopens.cons fun _ _ h => h.ne_nil
      rw [lexeme_of_lexed hlexed] at hunknown
      cases hunknown
    · obtain ⟨front, behind, rfl, hgap⟩ := hopens.cons fun _ _ h => h.ne_nil
      rw [lexeme_of_gap hgap] at hunknown
      cases hunknown
  · intro hstray
    rcases lexeme_cases c cs with hgap | ⟨kind, hlexed⟩ | hunknown
    · exact absurd hgap hstray.gap
    · exact absurd hlexed (hstray.token kind)
    · exact hunknown

end Reading

/-- **Going through a text.**  A text is at its end, or it starts with a gap or a token, or it goes
no further. -/
lemma piece_induction {motive : List Char → Prop} (nil : motive [])
    (gap : ∀ piece behind, Gap piece behind → motive behind → motive (piece ++ behind))
    (lexed : ∀ kind piece behind, Lexed kind piece behind → motive behind →
      motive (piece ++ behind))
    (stray : ∀ c cs, Stray (c :: cs) → motive (c :: cs)) (cs : List Char) : motive cs := by
  induction hlength : cs.length using Nat.strongRecOn generalizing cs with
  | _ length ih =>
      cases cs with
      | nil => exact nil
      | cons c cs =>
          have hshorter : ∀ {piece behind : List Char}, c :: cs = piece ++ behind → piece ≠ [] →
              behind.length < length := by
            intro piece behind heq hne
            have := congrArg List.length heq
            have := List.length_pos_iff.mpr hne
            simp only [List.length_append] at *
            omega
          rcases lexeme_cases c cs with ⟨piece, behind, heq, hgap⟩ |
            ⟨kind, piece, behind, heq, hlexed⟩ | hunknown
          · rw [heq]
            exact gap _ _ hgap (ih _ (hshorter heq hgap.ne_nil) behind rfl)
          · rw [heq]
            exact lexed _ _ _ hlexed (ih _ (hshorter heq hlexed.ne_nil) behind rfl)
          · exact stray c cs (lexeme_eq_unknown_iff.mp hunknown)

/-! ## Places and tokens -/

/-- The place behind a text: one line further for each line end, and one column further for each
character since the last one. -/
def Place.behind (before : List Char) : Place :=
  ⟨before.count '\n' + 1, (before.reverse.takeWhile (· ≠ '\n')).length + 1⟩

lemma Place.behind_advance (before : List Char) (c : Char) :
    (Place.behind before).advance c = .behind (before ++ [c]) := by
  by_cases hc : c = '\n'
  · simp [Place.behind, Place.advance, hc]
  · simp [Place.behind, Place.advance, hc]

/-- A token in front of others. -/
def Tokens.prepend (t : Token) (later : Tokens) : Tokens :=
  { later with tokens := t :: later.tokens }

section Steps

variable {before piece behind : List Char} {kind : TokenKind}

/-- The rest of a piece is passed over. -/
lemma tokensFrom_skip (before piece behind : List Char) :
    tokensFrom (.behind before) piece.length (piece ++ behind)
      = tokensFrom (.behind (before ++ piece)) 0 behind := by
  induction piece generalizing before with
  | nil => simp
  | cons c piece ih =>
      rw [List.length_cons, List.cons_append, tokensFrom, Place.behind_advance, ih]
      simp

lemma tokensFrom_gap (h : Gap piece behind) (before : List Char) :
    tokensFrom (.behind before) 0 (piece ++ behind)
      = tokensFrom (.behind (before ++ piece)) 0 behind := by
  cases piece with
  | nil => exact absurd rfl h.ne_nil
  | cons c piece =>
      rw [List.cons_append, tokensFrom, lexeme_of_gap h]
      simp only [Nat.add_sub_cancel, Place.behind_advance, tokensFrom_skip, List.append_assoc,
        List.singleton_append]

lemma tokensFrom_lexed (h : Lexed kind piece behind) (before : List Char) :
    tokensFrom (.behind before) 0 (piece ++ behind)
      = (tokensFrom (.behind (before ++ piece)) 0 behind).map
          (Tokens.prepend ⟨kind, String.ofList piece, .behind before⟩) := by
  cases piece with
  | nil => exact absurd rfl h.ne_nil
  | cons c piece =>
      have htake : (c :: (piece ++ behind)).take (piece.length + 1) = c :: piece := by simp
      rw [List.cons_append, tokensFrom, lexeme_of_lexed h]
      simp only [htake, Nat.add_sub_cancel, Place.behind_advance, tokensFrom_skip,
        List.append_assoc, List.singleton_append]
      rfl

lemma tokensFrom_stray {c : Char} {cs : List Char} (h : Stray (c :: cs)) (place : Place) :
    tokensFrom place 0 (c :: cs) = .error ⟨place, c⟩ := by
  rw [tokensFrom, lexeme_eq_unknown_iff.mpr h]

end Steps

end Mailroom.Source
