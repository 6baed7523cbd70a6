import CaseDict.Proofs.Abutting
import CaseDict.TokenStream
/-! # Quoted text in front of other text

Quoted text is written as if first every backslash in it were replaced by two and then every quote
by a backslash and a quote (`escape_eq_replaced`). So a backslash stands before each quote of the
content, a pair of backslashes for each backslash, and the lexer takes no quote but the closing one
for the end. It reads the content back whatever the content holds, and what stands behind the
closing quote is lexed as if it stood alone in the line in which the content ends (`lex_quoted`). -/

namespace CaseDict

namespace Symbol

/-- The text with `new` in the place of every `c`. -/
def replaced (c : Char) (new cs : List Char) : List Char :=
  cs.flatMap fun a => if a = c then new else [a]

theorem replaced_append (c : Char) (new cs more : List Char) :
    replaced c new (cs ++ more) = replaced c new cs ++ replaced c new more :=
  List.flatMap_append

theorem replaced_cons (c : Char) (new : List Char) (a : Char) (cs : List Char) :
    replaced c new (a :: cs) = (if a = c then new else [a]) ++ replaced c new cs :=
  List.flatMap_cons

theorem escape_eq_replaced (cs : List Char) :
    escape cs = replaced '"' ['\\', '"'] (replaced '\\' ['\\', '\\'] cs) := by
  induction cs with
  | nil => rfl
  | cons c cs ih =>
    -- the second replacement finds no quote in a pair of backslashes that the first one has made
    rw [replaced_cons, replaced_append, ← ih, escape]
    by_cases hslash : c = '\\'
    · subst hslash
      rfl
    · rw [if_neg hslash]
      by_cases hquote : c = '"'
      · subst hquote
        rfl
      · rw [if_neg (by simp [hslash, hquote])]
        simp [replaced, hquote]

theorem text_quoted (s : String) : (quoted s).text = "\"" ++
    String.ofList (replaced '"' ['\\', '"'] (replaced '\\' ['\\', '\\'] s.toList)) ++ "\"" := by
  rw [← escape_eq_replaced]
  rfl

end Symbol

namespace Lexer

theorem tokens_behind {line line' : Int} {text r : String} {ts : List Token}
    (h : lex line text.toList = (lex line' r.toList).behind ts) (source : String) :
    tokens source text line = (tokens source r line').map (ts ++ ·) := by
  unfold tokens
  rw [h]
  rcases lex line' r.toList with ⟨more, _ | f⟩ <;> rfl

/-- Quoted text in front of any text, wherever it begins: the token comes first, with the content
that was written, and then all that lexing the other text comes to as many lines further down as the
content has line breaks, whether it is lexed as a whole or token by token. -/
theorem lex_quoted (source : String) (line own : Int) (s r : String) :
    (⟨.quoted s, own⟩ : Token).text = "\"" ++ String.ofList
        (Symbol.replaced '"' ['\\', '"'] (Symbol.replaced '\\' ['\\', '\\'] s.toList)) ++ "\"" ∧
      lex line ((⟨.quoted s, own⟩ : Token).text ++ r).toList =
        (lex (line + newlines s.toList) r.toList).behind [⟨.quoted s, line⟩] ∧
      tokens source ((⟨.quoted s, own⟩ : Token).text ++ r) line =
        (tokens source r (line + newlines s.toList)).map (⟨.quoted s, line⟩ :: ·) ∧
      (Scanner.ofText ((⟨.quoted s, own⟩ : Token).text ++ r) source line).next =
        (.ok (some ⟨.quoted s, line⟩), .ofText r source (line + newlines s.toList)) := by
  have hstep : nextStep line ((⟨.quoted s, own⟩ : Token).text ++ r).toList =
      .ok (some ⟨⟨.quoted s, line⟩, line + newlines s.toList, r.toList⟩) := by
    rw [String.toList_append]
    exact nextStep_quoted s r.toList
  have hlex : lex line ((⟨.quoted s, own⟩ : Token).text ++ r).toList =
      (lex (line + newlines s.toList) r.toList).behind [⟨.quoted s, line⟩] := lex_of_nextStep hstep
  refine ⟨Symbol.text_quoted s, hlex, tokens_behind hlex source, ?_⟩
  unfold Scanner.next Scanner.ofText
  rw [hstep]

/-- Backslashes before quotes, at the end and by themselves, a line break and the beginnings of
comments, in front of a text that goes on with a quote and is not lexed to its end. -/
example : lexWithin 4 1 ((Symbol.quoted "\\\"//\\\n/*\"\\").text ++ "\"b\"\n$a /*").toList =
    some ⟨[⟨.quoted "\\\"//\\\n/*\"\\", 1⟩, ⟨.quoted "b", 2⟩, ⟨.reference "a", 3⟩],
      some (.misplaced .unterminatedComment 3)⟩ := by
  decide +kernel

end Lexer

end CaseDict
