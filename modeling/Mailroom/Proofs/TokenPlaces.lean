import Mathlib
import Mailroom.Proofs.Lexemes

/-!
# Where tokens stand

The line and the column of a token lead to the characters that it is made of, tokens follow one
another without touching what another one is made of, and what is left of a text is spaces and
comments.  A text that is not read to its end is refused at the first character that starts nothing,
and at no other.

- `Place.offset`: how many characters of a text stand in front of a place.
- `Spacing`: a stretch of spaces and comments.  `Scans`: a stretch of pieces of any kind.
- `Cuts`: a text with its tokens, piece by piece.  `tokensFrom_ending`: reading gives such tokens.
- `Cuts.spaced`, `Cuts.ordered`: what the places of the tokens say about the text.
- `tokenize_exact`: all that is said above.
-/

namespace Mailroom.Source

open Text

/-! ## Places -/

/-- How many characters stand in front of a line of a text.  The first line has the number zero. -/
def lineStart (text : List Char) (line : Nat) : Nat :=
  (((text.splitOn '\n').take line).map (·.length + 1)).sum

/-- How many characters stand in front of a place: those in front of its line, and those in front of
its column. -/
def Place.offset (text : List Char) (p : Place) : Nat :=
  lineStart text (p.line - 1) + (p.column - 1)

lemma lineStart_newline (text : List Char) (line : Nat) :
    lineStart ('\n' :: text) (line + 1) = lineStart text line + 1 := by
  simp [lineStart, List.splitOn, List.splitOnP_cons_eq_if_modifyHead, Nat.add_comm]

lemma lineStart_cons {c : Char} (hc : c ≠ '\n') (text : List Char) (line : Nat) :
    lineStart (c :: text) (line + 1) = lineStart text (line + 1) + 1 := by
  obtain ⟨first, later, hlines⟩ := List.exists_cons_of_ne_nil (List.splitOn_ne_nil '\n' text)
  rw [List.splitOn] at hlines
  simp [lineStart, List.splitOn, List.splitOnP_cons_eq_if_modifyHead, hc, hlines,
    Nat.add_right_comm]

/-- A line starts behind the line end in front of it. -/
lemma lineStart_behind (before behind : List Char) :
    lineStart (before ++ '\n' :: behind) (before.count '\n' + 1) = before.length + 1 := by
  induction before with
  | nil =>
      rw [List.nil_append, List.count_nil, lineStart_newline]
      rfl
  | cons c before ih =>
      rw [List.cons_append, List.length_cons, ← ih]
      by_cases hc : c = '\n'
      · rw [hc, List.count_cons_self, lineStart_newline]
      · rw [List.count_cons_of_ne hc, lineStart_cons hc]

lemma Place.offset_behind (before behind : List Char) :
    (Place.behind before).offset (before ++ behind) = before.length := by
  induction before using List.reverseRecOn generalizing behind with
  | nil => simp [Place.behind, Place.offset, lineStart]
  | append_singleton before c ih =>
      have hbefore := ih (c :: behind)
      rw [List.append_assoc, List.singleton_append, ← Place.behind_advance, Place.advance]
      split
      · rename_i hc
        subst hc
        simp [Place.offset, Place.behind, lineStart_behind]
      · simp only [Place.offset, Place.behind, Nat.add_sub_cancel] at hbefore ⊢
        rw [List.length_append, List.length_singleton, ← hbefore]
        omega

/-! ## Stretches of a text -/

/-- A stretch of spaces and complete comments, in front of `behind`. -/
inductive Spacing (behind : List Char) : List Char → Prop
  | nil : Spacing behind []
  | cons {piece cs : List Char} (hpiece : Gap piece (cs ++ behind)) (hcs : Spacing behind cs) :
      Spacing behind (piece ++ cs)

/-- A stretch of tokens, spaces and complete comments, in front of `behind`. -/
inductive Scans (behind : List Char) : List Char → Prop
  | nil : Scans behind []
  | gap {piece cs : List Char} (hpiece : Gap piece (cs ++ behind)) (hcs : Scans behind cs) :
      Scans behind (piece ++ cs)
  | lexed {kind : TokenKind} {piece cs : List Char} (hpiece : Lexed kind piece (cs ++ behind))
      (hcs : Scans behind cs) : Scans behind (piece ++ cs)

/-- What stands behind `before` is cut into gaps and the given tokens. -/
inductive Cuts : List Char → List Char → List Token → Prop
  | nil {before : List Char} : Cuts before [] []
  | gap {before piece behind : List Char} {ts : List Token} (hpiece : Gap piece behind)
      (hlater : Cuts (before ++ piece) behind ts) : Cuts before (piece ++ behind) ts
  | lexed {before piece behind : List Char} {kind : TokenKind} {ts : List Token}
      (hpiece : Lexed kind piece behind) (hlater : Cuts (before ++ piece) behind ts) :
      Cuts before (piece ++ behind) (⟨kind, String.ofList piece, .behind before⟩ :: ts)

/-- How reading may end: at the end of the text with its tokens, or at a stray character. -/
def Ending (before cs : List Char) : Except StrayChar Tokens → Prop
  | .ok found => Cuts before cs found.tokens ∧ found.stop = .behind (before ++ cs)
  | .error e => ∃ front behind, cs = front ++ e.char :: behind ∧ Scans (e.char :: behind) front ∧
      Stray (e.char :: behind) ∧ e.place = .behind (before ++ front)

/-- **Reading.**  From every place on, a text is cut into pieces up to its end or a stray
character. -/
lemma tokensFrom_ending (cs before : List Char) :
    Ending before cs (tokensFrom (.behind before) 0 cs) := by
  induction cs using piece_induction generalizing before with
  | nil => exact ⟨.nil, by simp⟩
  | gap piece behind hgap ih =>
      have hlater := ih (before ++ piece)
      rw [tokensFrom_gap hgap]
      cases hread : tokensFrom (.behind (before ++ piece)) 0 behind with
      | ok found =>
          obtain ⟨hcuts, hstop⟩ := hread ▸ hlater
          exact ⟨.gap hgap hcuts, by rw [hstop, List.append_assoc]⟩
      | error e =>
          obtain ⟨front, rest, rfl, hfront, hstray, hplace⟩ := hread ▸ hlater
          exact ⟨piece ++ front, rest, by simp, .gap hgap hfront, hstray, by simp [hplace]⟩
  | lexed kind piece behind hlexed ih =>
      have hlater := ih (before ++ piece)
      rw [tokensFrom_lexed hlexed]
      cases hread : tokensFrom (.behind (before ++ piece)) 0 behind with
      | ok found =>
          obtain ⟨hcuts, hstop⟩ := hread ▸ hlater
          exact ⟨.lexed hlexed hcuts, by simp [Tokens.prepend, hstop]⟩
      | error e =>
          obtain ⟨front, rest, rfl, hfront, hstray, hplace⟩ := hread ▸ hlater
          exact ⟨piece ++ front, rest, by simp, .lexed hlexed hfront, hstray, by simp [hplace]⟩
  | stray c cs hstray =>
      rw [tokensFrom_stray hstray]
      exact ⟨[], cs, rfl, .nil, hstray, by simp⟩

/-- Reading gets as far as the pieces do. -/
lemma Scans.tokensFrom_error {front behind : List Char} {c : Char} (h : Scans (c :: behind) front)
    (hstray : Stray (c :: behind)) (before : List Char) :
    tokensFrom (.behind before) 0 (front ++ c :: behind)
      = .error ⟨.behind (before ++ front), c⟩ := by
  induction h generalizing before with
  | nil => simpa using tokensFrom_stray hstray _
  | gap hpiece _ ih => rw [List.append_assoc, tokensFrom_gap hpiece, ih, List.append_assoc]
  | lexed hpiece _ ih =>
      rw [List.append_assoc, tokensFrom_lexed hpiece, ih, List.append_assoc]
      rfl

/-! ## What the places say -/

/-- How many characters stand in front of a token. -/
def Token.start (text : List Char) (t : Token) : Nat :=
  t.place.offset text

/-- How many characters stand in front of what is behind a token. -/
def Token.stop (text : List Char) (t : Token) : Nat :=
  t.start text + t.text.length

/-- Where the stretches around tokens begin and end: from the start of the text or the end of a
token to the next token or the end of the text. -/
def stretches (text : List Char) (ts : List Token) : List (Nat × Nat) :=
  (0 :: ts.map (Token.stop text)).zip (ts.map (Token.start text) ++ [text.length])

section Exactness

variable {text before cs : List Char} {ts : List Token}

/-- A token stands in the text where its place says. -/
lemma Cuts.stands (h : Cuts before cs ts) {t : Token} (ht : t ∈ ts) :
    ∃ front behind, cs = front ++ (t.text.toList ++ behind) ∧ t.place = .behind (before ++ front) ∧
      Lexed t.kind t.text.toList behind := by
  induction h with
  | nil => cases ht
  | @gap before piece behind ts hpiece _ ih =>
      obtain ⟨front, rest, rfl, hplace, hlexed⟩ := ih ht
      exact ⟨piece ++ front, rest, by simp, by simp [hplace], hlexed⟩
  | @lexed before piece behind kind ts hpiece _ ih =>
      rcases List.mem_cons.mp ht with rfl | ht
      · exact ⟨[], behind, by simp, by simp, by simpa using hpiece⟩
      · obtain ⟨front, rest, rfl, hplace, hlexed⟩ := ih ht
        exact ⟨piece ++ front, rest, by simp, by simp [hplace], hlexed⟩

/-- The offset of a token is the number of characters in front of it. -/
lemma Cuts.start_eq (h : Cuts before cs ts) (htext : text = before ++ cs) {t : Token}
    (ht : t ∈ ts) :
    ∃ front behind, cs = front ++ (t.text.toList ++ behind) ∧
      t.start text = before.length + front.length ∧ Lexed t.kind t.text.toList behind := by
  obtain ⟨front, behind, rfl, hplace, hlexed⟩ := h.stands ht
  refine ⟨front, behind, rfl, ?_, hlexed⟩
  rw [Token.start, hplace, htext, ← List.append_assoc, Place.offset_behind, List.length_append]

lemma Cuts.read (h : Cuts before cs ts) (htext : text = before ++ cs) {t : Token} (ht : t ∈ ts) :
    (text.drop (t.start text)).take t.text.length = t.text.toList ∧
      Lexed t.kind t.text.toList (text.drop (t.stop text)) := by
  obtain ⟨front, behind, rfl, hstart, hlexed⟩ := h.start_eq htext ht
  have hdrop : text.drop (t.start text) = t.text.toList ++ behind := by
    rw [hstart, htext, ← List.append_assoc, ← List.length_append, List.drop_left]
  have hbehind : text.drop (t.stop text) = behind := by
    rw [Token.stop, ← List.drop_drop, hdrop, ← String.length_toList, List.drop_left]
  rw [hdrop, hbehind, ← String.length_toList, List.take_left]
  exact ⟨rfl, hlexed⟩

lemma Cuts.ordered (h : Cuts before cs ts) (htext : text = before ++ cs) :
    ts.Pairwise fun t u => t.stop text ≤ u.start text := by
  induction h with
  | nil => exact .nil
  | gap _ _ ih => exact ih (by rw [htext, List.append_assoc])
  | @lexed before piece behind kind ts hpiece hlater ih =>
      have hlatertext : text = (before ++ piece) ++ behind := by rw [htext, List.append_assoc]
      refine .cons (fun u hu => ?_) (ih hlatertext)
      obtain ⟨front, -, -, hstart, -⟩ := hlater.start_eq hlatertext hu
      rw [hstart, Token.stop, Token.start, htext, Place.offset_behind]
      simp

/-- A gap in front of a stretch makes the stretch longer. -/
lemma Spacing.extend {before piece behind : List Char} {stop : Nat} (hgap : Gap piece behind)
    (htext : text = (before ++ piece) ++ behind) (hle : (before ++ piece).length ≤ stop)
    (h : Spacing (text.drop stop) ((text.take stop).drop (before ++ piece).length)) :
    Spacing (text.drop stop) ((text.take stop).drop before.length) := by
  obtain ⟨more, rfl⟩ := Nat.exists_eq_add_of_le hle
  have hdrop : text.drop ((before ++ piece).length + more) = behind.drop more := by
    rw [htext, List.drop_length_add_append]
  have htake : text.take ((before ++ piece).length + more)
      = (before ++ piece) ++ behind.take more := by
    rw [htext, List.take_length_add_append]
  rw [hdrop, htake, List.drop_left] at h
  rw [hdrop, htake, List.append_assoc, List.drop_left]
  refine .cons ?_ h
  rwa [List.take_append_drop]

/-- **Between tokens.**  Each gap of the text is added to the stretch that begins behind it. -/
lemma Cuts.spaced (h : Cuts before cs ts) (htext : text = before ++ cs) :
    ∀ stretch ∈ (before.length :: ts.map (Token.stop text)).zip
        (ts.map (Token.start text) ++ [text.length]),
      stretch.1 ≤ stretch.2 ∧
        Spacing (text.drop stretch.2) ((text.take stretch.2).drop stretch.1) := by
  induction h with
  | nil =>
      subst htext
      simpa using Spacing.nil
  | @gap before piece behind ts hpiece _ ih =>
      have hlatertext : text = (before ++ piece) ++ behind := by rw [htext, List.append_assoc]
      have hlater := ih hlatertext
      obtain ⟨first, later, hstarts⟩ : ∃ first later,
          ts.map (Token.start text) ++ [text.length] = first :: later :=
        List.exists_cons_of_ne_nil (by simp)
      rw [hstarts, List.zip_cons_cons, List.forall_mem_cons] at hlater ⊢
      obtain ⟨⟨hle, hspacing⟩, hothers⟩ := hlater
      refine ⟨⟨?_, ?_⟩, hothers⟩
      · simp only [List.length_append] at hle
        exact Nat.le_of_add_right_le hle
      · exact hspacing.extend hpiece hlatertext hle
  | @lexed before piece behind kind ts hpiece _ ih =>
      have hlater := ih (by rw [htext, List.append_assoc])
      have hstart : before.length
          = Token.start text ⟨kind, String.ofList piece, .behind before⟩ := by
        rw [Token.start, htext, Place.offset_behind]
      have hstop : (before ++ piece).length
          = Token.stop text ⟨kind, String.ofList piece, .behind before⟩ := by
        rw [Token.stop, ← hstart]
        simp
      rw [hstop] at hlater
      rw [List.map_cons, List.map_cons, List.cons_append, List.zip_cons_cons,
        List.forall_mem_cons, ← hstart]
      refine ⟨⟨Nat.le_refl _, ?_⟩, hlater⟩
      rw [List.drop_take, Nat.sub_self, List.take_zero]
      exact .nil

end Exactness

/-- Tokens that stand in a text where their places say, with nothing but spaces and comments around
them. -/
structure Tokens.Exact (text : List Char) (found : Tokens) : Prop where
  /-- The characters of a token are those at its place. -/
  read : ∀ t ∈ found.tokens, (text.drop (t.start text)).take t.text.length = t.text.toList
  /-- They make up a token of its kind, which goes as far as it can. -/
  lexed : ∀ t ∈ found.tokens, Lexed t.kind t.text.toList (text.drop (t.stop text))
  solid : ∀ t ∈ found.tokens, t.start text < t.stop text
  ordered : found.tokens.Pairwise fun t u => t.stop text ≤ u.start text
  ended : found.stop.offset text = text.length
  spaced : ∀ stretch ∈ stretches text found.tokens, stretch.1 ≤ stretch.2 ∧
    Spacing (text.drop stretch.2) ((text.take stretch.2).drop stretch.1)

lemma Cuts.exact {text : List Char} {ts : List Token} (h : Cuts [] text ts) :
    Tokens.Exact text ⟨ts, .behind text⟩ where
  read t ht := (h.read rfl ht).1
  lexed t ht := (h.read rfl ht).2
  solid t ht := by
    have hne := (h.read rfl ht).2.ne_nil
    rw [Token.stop, ← String.length_toList]
    have := List.length_pos_iff.mpr hne
    omega
  ordered := h.ordered rfl
  ended := by simpa using Place.offset_behind text []
  spaced := h.spaced rfl

/-- **Tokens stand where their places say, and nothing is lost.**  A text that is read is made of
the tokens at their places and of spaces and comments around them.  A text is refused exactly where
its pieces lead to a character that starts neither a token nor a gap, and the refusal names the line
and the column of that character. -/
theorem tokenize_exact (text : List Char) :
    (∀ found, tokenize text = .ok found → found.Exact text) ∧
      ∀ e, tokenize text = .error e ↔
        ∃ front behind, text = front ++ e.char :: behind ∧ Scans (e.char :: behind) front ∧
          Stray (e.char :: behind) ∧ e.place = .behind front ∧
          e.place.offset text = front.length := by
  have hending : Ending [] text (tokenize text) := tokensFrom_ending text []
  refine ⟨fun found hfound => ?_, fun e => ⟨fun herror => ?_, ?_⟩⟩
  · obtain ⟨hcuts, hstop⟩ := hfound ▸ hending
    have hexact := hcuts.exact
    rwa [show Place.behind text = found.stop from hstop.symm] at hexact
  · obtain ⟨front, behind, rfl, hfront, hstray, hplace⟩ := herror ▸ hending
    refine ⟨front, behind, rfl, hfront, hstray, hplace, ?_⟩
    rw [hplace]
    exact Place.offset_behind front _
  · rintro ⟨front, behind, rfl, hfront, hstray, hplace, -⟩
    rw [tokenize, ← show Place.behind [] = .start from rfl, hfront.tokensFrom_error hstray,
      List.nil_append, ← hplace]

/-- A comment over two lines, a slash that starts none, and a character that starts nothing. -/
theorem tokenize_exact_comments :
    (∃ found, tokenize "a/*\n*/+/*b".toList = .ok found ∧
      found.Exact "a/*\n*/+/*b".toList ∧
      found.tokens.map (fun t => (t.text, t.start "a/*\n*/+/*b".toList))
        = [("a", 0), ("+", 6), ("/", 7), ("*", 8), ("b", 9)]) ∧
      tokenize "a/*\n*/#".toList = .error ⟨⟨2, 3⟩, '#'⟩ ∧ Stray ['#'] := by
  have hread : tokenize "a/*\n*/+/*b".toList = .ok ⟨[⟨.name, "a", ⟨1, 1⟩⟩, ⟨.op, "+", ⟨2, 3⟩⟩,
      ⟨.op, "/", ⟨2, 4⟩⟩, ⟨.op, "*", ⟨2, 5⟩⟩, ⟨.name, "b", ⟨2, 6⟩⟩], ⟨2, 7⟩⟩ := by decide +kernel
  have hrefused : tokenize "a/*\n*/#".toList = .error ⟨⟨2, 3⟩, '#'⟩ := by decide +kernel
  obtain ⟨front, behind, heq, -, hstray, -, hoffset⟩ :=
    ((tokenize_exact "a/*\n*/#".toList).2 _).mp hrefused
  refine ⟨⟨_, hread, (tokenize_exact _).1 _ hread, by decide⟩, hrefused, ?_⟩
  have hlength : front.length = 6 := by
    rw [← hoffset]
    decide
  obtain rfl : behind = [] := by
    have hlengths := congrArg List.length heq
    rw [List.length_append, List.length_cons, hlength] at hlengths
    have hseven : "a/*\n*/#".toList.length = 7 := by decide
    exact List.eq_nil_of_length_eq_zero (by omega)
  exact hstray

end Mailroom.Source
