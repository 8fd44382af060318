import Mathlib
import Mailroom.Proofs.Printing
import Mailroom.Proofs.TokenPlaces

/-!
# Layout does not matter

The tokens of a text may be written again with other spaces and comments between them.  All that is
needed is a space behind each token, because a space goes on with no token and starts no comment
with a slash.  What comes behind the space may be any mix of spaces and comments, as long as a
comment of one line is given its line end.

- `Filling`, `Separator`: what may be put between tokens.
- `Lexed.before_space`: a token in front of a space is the token that it was.
- `Spacing.tokensFrom_eq`: reading passes over spaces and comments.
- `tokenize_respaced`: the tokens are the same.
-/

namespace Mailroom.Source

open Text

/-- A mix of spaces, block comments and comments of one line with their line ends. -/
inductive Filling : List Char → Prop
  | nil : Filling []
  | space {c : Char} {cs : List Char} (hc : IsSpace c) (hcs : Filling cs) : Filling (c :: cs)
  | block {body cs : List Char} (hbody : ¬ closing <:+: body) (hcs : Filling cs) :
      Filling ('/' :: '*' :: (body ++ closing ++ cs))
  | line {body cs : List Char} (hbody : '\n' ∉ body) (hcs : Filling cs) :
      Filling ('/' :: '/' :: (body ++ '\n' :: cs))

/-- What may stand between two tokens: a space and a mix of spaces and comments. -/
inductive Separator : List Char → Prop
  | mk {c : Char} {cs : List Char} (hc : IsSpace c) (hcs : Filling cs) : Separator (c :: cs)

/-- Tokens written one behind the other, with something between each and the next. -/
def respaced (ts : List Token) (separators : List (List Char)) : List Char :=
  (List.zipWith (fun t s => t.text.toList ++ s) ts (separators ++ [[]])).flatten

/-! ## Spaces and comments -/

section Layouts

variable {behind cs : List Char}

/-- A mix of spaces and comments is one, whatever stands behind it. -/
lemma Filling.spacing (h : Filling cs) (behind : List Char) : Spacing behind cs := by
  induction h with
  | nil => exact .nil
  | space hc _ ih => exact .cons (.space hc) ih
  | @block body cs hbody _ ih =>
      have hspacing := Spacing.cons (.comment (.block hbody)) ih
      simpa using hspacing
  | @line body cs hbody _ ih =>
      have hnewline : Spacing behind ('\n' :: cs) := .cons (.space (by simp [IsSpace])) ih
      exact .cons (.comment (.line hbody (by simp))) hnewline

lemma Separator.spacing (h : Separator cs) (behind : List Char) : Spacing behind cs := by
  obtain ⟨hc, hcs⟩ := h
  exact (Filling.space hc hcs).spacing behind

lemma Separator.head {c : Char} (h : Separator cs) (hc : c ∈ (cs ++ behind).head?) : IsSpace c := by
  obtain ⟨hspace, -⟩ := h
  obtain rfl : _ = c := by simpa using hc
  exact hspace

lemma Spacing.tokensFrom_eq (h : Spacing behind cs) (before : List Char) :
    tokensFrom (.behind before) 0 (cs ++ behind)
      = tokensFrom (.behind (before ++ cs)) 0 behind := by
  induction h generalizing before with
  | nil => simp
  | cons hpiece _ ih => rw [List.append_assoc, tokensFrom_gap hpiece, ih, List.append_assoc]

end Layouts

/-! ## Tokens in front of spaces -/

/-- No comment starts with a character in front of a space. -/
lemma not_opens_comment_of_space {c : Char} {behind : List Char}
    (hspace : ∀ d ∈ behind.head?, IsSpace d) : ¬ Opens Comment (c :: behind) := by
  intro hopens
  obtain ⟨front, rest, rfl, hcomment⟩ := hopens.cons fun _ _ h => (Gap.comment h).ne_nil
  cases hcomment with
  | line => simpa [IsSpace] using hspace '/' rfl
  | block => simpa [IsSpace] using hspace '*' rfl

/-- **Tokens on their own.**  A token in front of a space, or of nothing, is what it was. -/
lemma Lexed.before_space {kind : TokenKind} {piece behind behind' : List Char}
    (h : Lexed kind piece behind) (hspace : ∀ d ∈ behind'.head?, IsSpace d) :
    Lexed kind piece behind' := by
  have hdigit : ∀ d ∈ behind'.head?, isDecimalDigit d = false :=
    fun d hd => (hspace d hd).isDecimalDigit
  have hword : ∀ d ∈ behind'.head?, isWordChar d = false := fun d hd => (hspace d hd).isWordChar
  cases h with
  | number hc hcs => exact .number hc hcs hdigit
  | name hc hcs _ hname => exact .name hc hcs hword hname
  | keyword hc hcs _ hkeyword => exact .keyword hc hcs hword hkeyword
  | longOp hop => exact .longOp hop
  | shortOp hop =>
      refine .shortOp hop (fun d hd hlong => ?_) (not_opens_comment_of_space hspace)
      -- no operator ends with a space
      rcases hspace d hd with rfl | rfl | rfl | rfl <;> simp [longOperators] at hlong

/-! ## Texts -/

lemma respaced_cons (t : Token) (ts : List Token) (s : List Char) (separators : List (List Char)) :
    respaced (t :: ts) (s :: separators)
      = t.text.toList ++ (s ++ respaced ts separators) := by
  simp [respaced]

/-- **Writing tokens again.**  One token after the other is read, and what is between them is passed
over. -/
lemma tokensFrom_respaced {ts : List Token} {separators : List (List Char)}
    (hts : ∀ t ∈ ts, ∃ behind, Lexed t.kind t.text.toList behind)
    (hlength : separators.length = ts.length - 1) (hseparators : ∀ s ∈ separators, Separator s)
    (before : List Char) :
    ∃ found, tokensFrom (.behind before) 0 (respaced ts separators) = .ok found ∧
      found.tokens.map Token.spelling = ts.map Token.spelling := by
  induction ts generalizing separators before with
  | nil => exact ⟨⟨[], .behind before⟩, rfl, rfl⟩
  | cons t ts ih =>
      obtain ⟨behind, hlexed⟩ := hts t (by simp)
      have hspelling : Token.spelling ⟨t.kind, t.text, .behind before⟩ = t.spelling := rfl
      cases separators with
      | nil =>
          obtain rfl : ts = [] := List.eq_nil_of_length_eq_zero (by simpa using hlength.symm)
          have hlast : Lexed t.kind t.text.toList [] := hlexed.before_space (by simp)
          have hone : respaced [t] [] = t.text.toList ++ [] := by simp [respaced]
          rw [hone, tokensFrom_lexed hlast]
          exact ⟨_, rfl, by simp [Tokens.prepend, hspelling]⟩
      | cons s separators =>
          obtain ⟨hs, hlater⟩ := List.forall_mem_cons.mp hseparators
          have hcount : separators.length = ts.length - 1 := by
            simp only [List.length_cons] at hlength
            omega
          obtain ⟨found, hfound, hsame⟩ := ih (fun u hu => hts u (by simp [hu])) hcount hlater
            (before ++ t.text.toList ++ s)
          have hspaced : Lexed t.kind t.text.toList (s ++ respaced ts separators) :=
            hlexed.before_space fun d hd => hs.head hd
          rw [respaced_cons, tokensFrom_lexed hspaced, (hs.spacing _).tokensFrom_eq, hfound]
          exact ⟨_, rfl, by simp [Tokens.prepend, hspelling, hsame]⟩

/-- **Layout does not matter.**  The tokens of a text, written again with any separators between
them, are read as the same tokens in the same order. -/
theorem tokenize_respaced {text : List Char} {found : Tokens} (h : tokenize text = .ok found)
    {separators : List (List Char)} (hlength : separators.length = found.tokens.length - 1)
    (hseparators : ∀ s ∈ separators, Separator s) :
    ∃ again, tokenize (respaced found.tokens separators) = .ok again ∧
      again.tokens.map Token.spelling = found.tokens.map Token.spelling := by
  have hending : Ending [] text (tokenize text) := tokensFrom_ending text []
  obtain ⟨hcuts, -⟩ := h ▸ hending
  refine tokensFrom_respaced (fun t ht => ?_) hlength hseparators []
  obtain ⟨-, behind, -, -, hlexed⟩ := hcuts.stands ht
  exact ⟨behind, hlexed⟩

/-- A slash and a star that start no comment, with comments put between them and in front. -/
theorem tokenize_respaced_slash :
    ∃ found again, tokenize "a--/*b".toList = .ok found ∧
      respaced found.tokens
        [['\n'], ['\t', '/', '*', '*', '/'], [' ', '/', '/', '*', '/', '\n'], ['\r']]
        = "a\n--\t/**// //*/\n*\rb".toList ∧
      tokenize "a\n--\t/**// //*/\n*\rb".toList = .ok again ∧
      again.tokens.map Token.spelling = found.tokens.map Token.spelling := by
  have hread : tokenize "a--/*b".toList = .ok ⟨[⟨.name, "a", ⟨1, 1⟩⟩, ⟨.op, "--", ⟨1, 2⟩⟩,
      ⟨.op, "/", ⟨1, 4⟩⟩, ⟨.op, "*", ⟨1, 5⟩⟩, ⟨.name, "b", ⟨1, 6⟩⟩], ⟨1, 7⟩⟩ := by decide +kernel
  have hseparators : ∀ s ∈ [['\n'], ['\t', '/', '*', '*', '/'], [' ', '/', '/', '*', '/', '\n'],
      ['\r']], Separator s := by
    have hblock : Filling ['/', '*', '*', '/'] := @Filling.block [] [] (by simp [closing]) .nil
    have hline : Filling ['/', '/', '*', '/', '\n'] :=
      @Filling.line ['*', '/'] [] (by simp) .nil
    simp only [List.forall_mem_cons, List.not_mem_nil, false_imp_iff, implies_true, and_true]
    refine ⟨.mk ?_ .nil, .mk ?_ hblock, .mk ?_ hline, .mk ?_ .nil⟩ <;> simp [IsSpace]
  obtain ⟨again, hagain, hsame⟩ := tokenize_respaced hread rfl hseparators
  have hwritten : respaced [⟨.name, "a", ⟨1, 1⟩⟩, ⟨.op, "--", ⟨1, 2⟩⟩, ⟨.op, "/", ⟨1, 4⟩⟩,
      ⟨.op, "*", ⟨1, 5⟩⟩, ⟨.name, "b", ⟨1, 6⟩⟩]
      [['\n'], ['\t', '/', '*', '*', '/'], [' ', '/', '/', '*', '/', '\n'], ['\r']]
      = "a\n--\t/**// //*/\n*\rb".toList := by decide +kernel
  exact ⟨_, again, hread, hwritten, hwritten ▸ hagain, hsame⟩

end Mailroom.Source
