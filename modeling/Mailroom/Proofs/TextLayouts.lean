import Mathlib
import Mailroom.Inbox
import Mailroom.Proofs.Text

/-!
# Tokens laid out in a text

A text that is to be read into an inbox consists of tokens with something between them: commas,
blanks of any kind, and comments, each of which runs to the end of its line.  Here this is said
without the reader, which goes line by line, cuts off comments, turns commas into blanks and looks for
words.  It finds just those tokens, each on the line that it stands on.

- `Parting`: what may stand between two tokens.
- `Laid`: a text with its tokens, each with its line.
- `placed`: the tokens of lines as the reader finds them.
- `placed_parting`, `placed_token`: what it finds where something between tokens, or a token, stands
  in front.
- `Laid.placed_eq`: the tokens of a text, by induction on them.
-/

namespace Mailroom.Inbox

open Text

/-! ## Layouts -/

/-- A comma or a blank. -/
def IsMark (c : Char) : Prop :=
  c = ',' ∨ isBlank c = true

/-- What may stand between tokens: commas, blanks, and comments with the line feeds behind them. -/
inductive Parting : List Char → Prop
  | nil : Parting []
  | mark {c : Char} {cs : List Char} (hc : IsMark c) (hcs : Parting cs) : Parting (c :: cs)
  | comment {body cs : List Char} (hbody : '\n' ∉ body) (hcs : Parting cs) :
      Parting ('#' :: (body ++ '\n' :: cs))

/-- What may stand behind the last token: a comment need not be followed by a line feed there. -/
inductive Ending : List Char → Prop
  | parting {cs : List Char} (h : Parting cs) : Ending cs
  | comment {front body : List Char} (hfront : Parting front) (hbody : '\n' ∉ body) :
      Ending (front ++ '#' :: body)

/-- A token is not empty and has nothing in it that could part tokens. -/
structure IsToken (cs : List Char) : Prop where
  ne_nil : cs ≠ []
  solid : ∀ c ∈ cs, ¬ IsMark c ∧ c ≠ '#'

/-- A text behind `before`, with its tokens in order and the number of the line that each stands on.
Two tokens have something between them. -/
inductive Laid : List Char → List Char → List (Nat × List Char) → Prop
  | ending {before cs : List Char} (h : Ending cs) : Laid before cs []
  | token {before parting token rest : List Char} {later : List (Nat × List Char)}
      (hparting : Parting parting) (happart : before = [] ∨ parting ≠ [])
      (htoken : IsToken token) (hrest : Laid (before ++ parting ++ token) rest later) :
      Laid before (parting ++ (token ++ rest))
        ((1 + (before ++ parting).count '\n', token) :: later)

/-! ## Lines -/

/-- What is open when a line goes on stands in front of it. -/
lemma linesFrom_eq (line cs : List Char) :
    ∃ first rest, lines cs = first :: rest ∧ linesFrom line cs = (line.reverse ++ first) :: rest := by
  induction cs generalizing line with
  | nil => exact ⟨[], [], rfl, by simp [linesFrom]⟩
  | cons c cs ih =>
      by_cases hc : c = '\n'
      · refine ⟨[], lines cs, ?_, ?_⟩
        · rw [lines, linesFrom, if_pos hc]
          rfl
        · rw [linesFrom, if_pos hc, List.append_nil]
          rfl
      · obtain ⟨first, rest, hlines, hfrom⟩ := ih (c :: line)
        obtain ⟨first', rest', hlines', hfrom'⟩ := ih [c]
        rw [hlines, List.cons.injEq] at hlines'
        obtain ⟨rfl, rfl⟩ := hlines'
        refine ⟨c :: first, rest, ?_, ?_⟩
        · rw [lines, linesFrom, if_neg hc, hfrom']
          rfl
        · rw [linesFrom, if_neg hc, hfrom]
          simp

lemma linesFrom_append {front : List Char} (h : '\n' ∉ front) (line cs : List Char) :
    linesFrom line (front ++ cs) = linesFrom (front.reverse ++ line) cs := by
  induction front generalizing line with
  | nil => rfl
  | cons c front ih =>
      rw [List.mem_cons, not_or] at h
      rw [List.cons_append, linesFrom, if_neg (Ne.symm h.1), ih h.2]
      simp

/-- What has no line feed in it stands at the start of the first line. -/
lemma lines_append {front : List Char} (h : '\n' ∉ front) (cs : List Char) :
    ∃ first rest, lines cs = first :: rest ∧ lines (front ++ cs) = (front ++ first) :: rest := by
  obtain ⟨first, rest, hlines, hfrom⟩ := linesFrom_eq front.reverse cs
  refine ⟨first, rest, hlines, ?_⟩
  rw [lines, linesFrom_append h, List.append_nil, hfrom, List.reverse_reverse]

lemma lines_newline (cs : List Char) : lines ('\n' :: cs) = [] :: lines cs := rfl

/-- The first line starts as the text does, unless it is empty. -/
lemma head?_lines {cs first : List Char} {rest : List (List Char)} (h : lines cs = first :: rest)
    {c : Char} (hc : c ∈ first.head?) : c ∈ cs.head? := by
  cases cs with
  | nil =>
      cases h
      cases hc
  | cons d cs =>
      by_cases hd : d = '\n'
      · subst hd
        cases h
        cases hc
      · have hfront : '\n' ∉ [d] := by simpa using Ne.symm hd
        obtain ⟨first', rest', -, hlines⟩ := lines_append hfront cs
        rw [List.singleton_append] at hlines
        rw [hlines, List.cons.injEq] at h
        rw [← h.1] at hc
        exact hc

/-! ## Tokens of a line -/

lemma IsMark.ne_hash {c : Char} (h : IsMark c) : c ≠ '#' := by
  rintro rfl
  rcases h with h | h
  · cases h
  · exact absurd h (by decide)

/-- A comma, and a blank, is a blank to the reader. -/
lemma IsMark.isBlank {c : Char} (h : IsMark c) :
    Text.isBlank (if c = ',' then ' ' else c) = true := by
  split
  · decide
  · rename_i hc
    exact h.resolve_left hc

lemma words_blank {b : Char} (hb : Text.isBlank b = true) (cs : List Char) :
    words (b :: cs) = words cs := by
  rw [words, wordsFrom, if_pos hb]
  rfl

lemma before_mark {c : Char} (hc : IsMark c) (line : List Char) :
    before ['#'] (c :: line) = c :: before ['#'] line := by
  have hfront : ∀ d ∈ ['#'], d ∉ [c] := by simpa using hc.ne_hash.symm
  simpa using before_append_front (by simp) hfront line

/-- A comma or a blank in front of a line makes no difference. -/
lemma tokens_mark {c : Char} (hc : IsMark c) (line : List Char) :
    tokens (c :: line) = tokens line := by
  rw [tokens, before_mark hc, List.map_cons, words_blank hc.isBlank]
  rfl

lemma tokens_comment (body : List Char) : tokens ('#' :: body) = [] := by
  simp [tokens, before, words, wordsFrom]

/-- What ends a token: the end of the text, a comma, a blank or a comment. -/
def Stops (cs : List Char) : Prop :=
  ∀ c ∈ cs.head?, IsMark c ∨ c = '#'

/-- A token in front of a line is found if it ends there. -/
lemma tokens_token {token line : List Char} (htoken : IsToken token) (hline : Stops line) :
    tokens (token ++ line) = token :: tokens line := by
  have hblank : ∀ c ∈ token, Text.isBlank c = false :=
    fun c hc => Bool.eq_false_iff.mpr fun h => (htoken.solid c hc).1 (.inr h)
  have hcommas : token.map (fun c => if c = ',' then ' ' else c) = token :=
    (List.map_congr_left fun c hc => if_neg fun h => (htoken.solid c hc).1 (.inl h)).trans
      (List.map_id token)
  have hbefore : before ['#'] (token ++ line) = token ++ before ['#'] line :=
    before_append_front (by simp) (by simpa using fun h => (htoken.solid _ h).2 rfl) line
  rw [tokens, hbefore, List.map_append, hcommas]
  cases line with
  | nil =>
      rw [before, List.map_nil, List.append_nil, words_single hblank htoken.ne_nil]
      rfl
  | cons c line =>
      rcases hline c rfl with hmark | rfl
      · rw [tokens_mark hmark, before_mark hmark, List.map_cons,
          words_append hblank htoken.ne_nil hmark.isBlank]
        rfl
      · have hnothing : before ['#'] ('#' :: line) = [] := by simp [before]
        rw [tokens_comment, hnothing, List.map_nil, List.append_nil,
          words_single hblank htoken.ne_nil]

/-! ## Tokens of a text -/

/-- The tokens of lines, the first of which has the number `line`, each with its line. -/
def placed (line : Nat) : List (List Char) → List (Nat × List Char)
  | [] => []
  | cs :: rest => (tokens cs).map (fun token => (line, token)) ++ placed (line + 1) rest

lemma slips_eq_placed (line : Nat) (rows : List (List Char)) :
    slips line rows = (placed line rows).map fun place => slip place.1 place.2 := by
  induction rows generalizing line with
  | nil => rfl
  | cons cs rows ih =>
      rw [slips, placed, ih, List.map_append, List.map_map]
      rfl

lemma placed_newline (n : Nat) (cs : List Char) :
    placed n (lines ('\n' :: cs)) = placed (n + 1) (lines cs) := rfl

lemma placed_mark {c : Char} (hc : IsMark c) (n : Nat) (cs : List Char) :
    placed n (lines (c :: cs)) = placed (n + [c].count '\n') (lines cs) := by
  by_cases hnew : c = '\n'
  · subst hnew
    exact placed_newline n cs
  · have hfront : '\n' ∉ [c] := by simpa using Ne.symm hnew
    obtain ⟨first, rest, hlines, hmore⟩ := lines_append hfront cs
    rw [List.singleton_append] at hmore
    rw [List.count_eq_zero_of_not_mem hfront, Nat.add_zero, hmore, hlines, placed, placed,
      List.singleton_append, tokens_mark hc]

/-- Nothing is found in a comment, and what follows the line feed behind it is on the next line. -/
lemma placed_comment {body : List Char} (hbody : '\n' ∉ body) (n : Nat) (cs : List Char) :
    placed n (lines ('#' :: (body ++ '\n' :: cs))) = placed (n + 1) (lines cs) := by
  have hfront : '\n' ∉ '#' :: body := by simpa using hbody
  obtain ⟨first, rest, hlines, hmore⟩ := lines_append hfront ('\n' :: cs)
  rw [lines_newline, List.cons.injEq] at hlines
  obtain ⟨rfl, rfl⟩ := hlines
  rw [List.cons_append, List.append_nil] at hmore
  rw [hmore, placed, tokens_comment]
  rfl

/-- What stands between tokens is passed over, and its line feeds are counted. -/
lemma placed_parting {parting : List Char} (h : Parting parting) (n : Nat) (cs : List Char) :
    placed n (lines (parting ++ cs)) = placed (n + parting.count '\n') (lines cs) := by
  induction h generalizing n with
  | nil => rfl
  | @mark c parting hc _ ih =>
      rw [List.cons_append, placed_mark hc, ih, Nat.add_assoc, ← List.count_append]
      rfl
  | @comment body parting hbody _ ih =>
      rw [List.cons_append, List.append_assoc, List.cons_append, placed_comment hbody, ih]
      congr 1
      rw [List.count_cons_of_ne (by decide), List.count_append, List.count_cons_self,
        List.count_eq_zero_of_not_mem hbody]
      omega

lemma placed_ending {ending : List Char} (h : Ending ending) (n : Nat) :
    placed n (lines ending) = [] := by
  cases h with
  | parting h =>
      have hnone := placed_parting h n []
      rw [List.append_nil] at hnone
      rw [hnone]
      rfl
  | @comment front body hfront hbody =>
      have hcomment : '\n' ∉ '#' :: body := by simpa using hbody
      obtain ⟨first, rest, hlines, hmore⟩ := lines_append hcomment []
      cases hlines
      rw [List.append_nil, List.reverse_nil, List.append_nil] at hmore
      rw [placed_parting hfront, hmore, placed, tokens_comment]
      rfl

/-- A token that ends where it should is found on its line. -/
lemma placed_token {token rest : List Char} (htoken : IsToken token) (hrest : Stops rest) (n : Nat) :
    placed n (lines (token ++ rest)) = (n, token) :: placed n (lines rest) := by
  have hfront : '\n' ∉ token := fun h => (htoken.solid _ h).1 (.inr (by decide))
  obtain ⟨first, later, hlines, hmore⟩ := lines_append hfront rest
  have hstops : Stops first := fun c hc => hrest c (head?_lines hlines hc)
  rw [hmore, hlines, placed, placed, tokens_token htoken hstops]
  rfl

/-! ## Layouts are read -/

lemma Parting.stops {parting : List Char} (h : Parting parting) (hne : parting ≠ [])
    (cs : List Char) : Stops (parting ++ cs) := by
  cases h with
  | nil => exact absurd rfl hne
  | mark hc _ =>
      intro c hhead
      cases hhead
      exact .inl hc
  | comment _ _ =>
      intro c hhead
      cases hhead
      exact .inr rfl

lemma Ending.stops {ending : List Char} (h : Ending ending) : Stops ending := by
  cases h with
  | @parting _ h =>
      by_cases hne : ending = []
      · subst hne
        exact fun c hc => absurd hc (by simp)
      · simpa using h.stops hne []
  | @comment front body hfront _ =>
      by_cases hne : front = []
      · subst hne
        intro c hc
        cases hc
        exact .inr rfl
      · exact hfront.stops hne _

/-- Behind a token, a text goes on with something that ends the token. -/
lemma Laid.stops {before text : List Char} {places : List (Nat × List Char)}
    (h : Laid before text places) (hbefore : before ≠ []) : Stops text := by
  cases h with
  | ending h => exact h.stops
  | token hparting happart _ _ =>
      exact hparting.stops (happart.resolve_left hbefore) _

/-- **Reading a layout.**  The tokens of a text are found, each on its line. -/
lemma Laid.placed_eq {before text : List Char} {places : List (Nat × List Char)}
    (h : Laid before text places) : placed (1 + before.count '\n') (lines text) = places := by
  induction h with
  | ending h => exact placed_ending h _
  | @token before parting token rest later hparting _ htoken hrest ih =>
      have hne : before ++ parting ++ token ≠ [] := by simp [htoken.ne_nil]
      have hcount : token.count '\n' = 0 :=
        List.count_eq_zero_of_not_mem fun h => (htoken.solid _ h).1 (.inr (by decide))
      rw [List.count_append, hcount, Nat.add_zero] at ih
      rw [placed_parting hparting, placed_token htoken (hrest.stops hne), Nat.add_assoc,
        ← List.count_append, ih]

/-! ## Every text has a layout -/

instance (c : Char) : Decidable (IsMark c) :=
  inferInstanceAs (Decidable (c = ',' ∨ isBlank c = true))

lemma Parting.append {parting more : List Char} (h : Parting parting) (hmore : Parting more) :
    Parting (parting ++ more) := by
  induction h with
  | nil => exact hmore
  | mark hc _ ih => exact .mark hc ih
  | comment hbody _ ih =>
      rw [List.cons_append, List.append_assoc, List.cons_append]
      exact .comment hbody ih

/-- A text that starts with a token, apart from what may stand in front of it. -/
def Opens (cs : List Char) : Prop :=
  ∃ parting token rest, cs = parting ++ (token ++ rest) ∧ Parting parting ∧ IsToken token ∧
    Stops rest

/-- What may stand in front of a text makes no difference to how it goes on. -/
lemma ending_or_opens_append {parting cs : List Char} (h : Parting parting)
    (hcs : Ending cs ∨ Opens cs) : Ending (parting ++ cs) ∨ Opens (parting ++ cs) := by
  rcases hcs with (hending | ⟨hfront, hbody⟩) | ⟨more, token, rest, rfl, hmore, htoken, hrest⟩
  · exact .inl (.parting (h.append hending))
  · rw [← List.append_assoc]
    exact .inl (.comment (h.append hfront) hbody)
  · refine .inr ⟨parting ++ more, token, rest, ?_, h.append hmore, htoken, hrest⟩
    rw [List.append_assoc]

/-- A character that parts nothing. -/
def isSolid (c : Char) : Bool :=
  ¬ IsMark c ∧ c ≠ '#'

/-- Such a character starts a token, which goes on as long as there are such. -/
lemma opens_of_solid {c : Char} (hc : isSolid c = true) (cs : List Char) : Opens (c :: cs) := by
  refine ⟨[], c :: cs.takeWhile isSolid, cs.dropWhile isSolid, ?_, .nil, ⟨by simp, ?_⟩, ?_⟩
  · rw [List.nil_append, List.cons_append, List.takeWhile_append_dropWhile]
  · intro d hd
    rcases List.mem_cons.mp hd with rfl | hd
    · exact of_decide_eq_true hc
    · have hsolid : isSolid d = true := List.mem_takeWhile_imp hd
      exact of_decide_eq_true hsolid
  · intro d hd
    have hstop := List.head?_dropWhile_not isSolid cs
    rw [Option.mem_def.mp hd] at hstop
    exact or_iff_not_imp_left.mpr (by simpa [isSolid] using hstop)

/-- Every text is an ending or has a first token. -/
lemma ending_or_opens (cs : List Char) : Ending cs ∨ Opens cs := by
  induction hlength : cs.length using Nat.strong_induction_on generalizing cs with
  | _ n ih =>
      cases cs with
      | nil => exact .inl (.parting .nil)
      | cons c cs =>
          subst hlength
          by_cases hmark : IsMark c
          · exact ending_or_opens_append (.mark hmark .nil) (ih _ (Nat.lt_succ_self _) cs rfl)
          · by_cases hhash : c = '#'
            · subst hhash
              by_cases hnew : '\n' ∈ cs
              · obtain ⟨body, cs, rfl, hbody⟩ := List.eq_append_cons_of_mem hnew
                have hshort : cs.length < ('#' :: (body ++ '\n' :: cs)).length := by
                  simp only [List.length_cons, List.length_append]
                  omega
                have hlater := ending_or_opens_append (.comment hbody .nil) (ih _ hshort cs rfl)
                rwa [List.cons_append, List.append_assoc, List.cons_append,
                  List.nil_append] at hlater
              · have hcomment : Ending ([] ++ '#' :: cs) := .comment .nil hnew
                exact .inl hcomment
            · exact .inr (opens_of_solid (decide_eq_true ⟨hmark, hhash⟩) cs)

/-- **Every text has a layout.** -/
lemma exists_laid (before text : List Char) (h : before = [] ∨ Stops text) :
    ∃ places, Laid before text places := by
  induction hlength : text.length using Nat.strong_induction_on generalizing before text with
  | _ n ih =>
      rcases ending_or_opens text with hending | ⟨parting, token, rest, rfl, hparting, htoken, hrest⟩
      · exact ⟨[], .ending hending⟩
      · have hpos := List.length_pos_of_ne_nil htoken.ne_nil
        have hshort : rest.length < n := by
          rw [← hlength, List.length_append, List.length_append]
          omega
        obtain ⟨later, hlater⟩ := ih _ hshort (before ++ parting ++ token) rest (.inr hrest) rfl
        refine ⟨_, .token hparting ?_ htoken hlater⟩
        refine h.imp_right fun hstops hnil => ?_
        -- a token in front would not end what stands before it
        subst hnil
        obtain ⟨c, token, rfl⟩ := List.exists_cons_of_ne_nil htoken.ne_nil
        have hsolid := htoken.solid c List.mem_cons_self
        exact (hstops c rfl).elim hsolid.1 hsolid.2

end Mailroom.Inbox
