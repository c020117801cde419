import Mathlib
import PluginRecovery.Proofs.Script.TokenSequence

/-!
Texts that end within a token. A text that is read as tokens (`ReadAs`) is complete tokens and then
its ending: nothing, or a literal, a regular expression or a block comment without its end. Every
text can be read so (`exists_readAs`): it begins with a token that may stand there, or is an ending
(`begins`). The removal of comments writes what is left of the tokens and of the ending
(`strip_ending`), whole characters throughout. Only of a block comment without an end it writes the
last byte, whatever the character (`strip_openBlockComment`), and where that byte is not ASCII what
it writes is no text (`bytes_append_lastByte_ne`). So a text is damaged there and nowhere else
(`stripComments_damages_end_only`).
-/

set_option autoImplicit false
set_option relaxedAutoImplicit false

namespace PluginRecovery.Script

open PluginRecovery.Text

/-! ### What a text may end in -/

/-- A backslash at the end of the text, or nothing. -/
def hangingSource (hanging : Bool) : List Char :=
  if hanging then ['\\'] else []

/-- The text of a regular expression that does not end, behind its slash: complete parts, a class
that is still open, and a backslash with nothing behind it. -/
def openRegexSource (body : List RegexPart) (members? : Option (List (Piece [']'])))
    (hanging : Bool) : List Char :=
  body.flatMap RegexPart.source ++
    (members?.elim [] fun members ↦ '[' :: members.flatMap Piece.source) ++ hangingSource hanging

/-- What a text ends in behind its last complete token: nothing, or a token without its end. -/
inductive Ending where
  | complete
  | literal (quote : Char) (hquote : quote ∈ quotes) (body : List (Piece [quote]))
      (hanging : Bool)
  | regex (body : List RegexPart) (members? : Option (List (Piece [']']))) (hanging : Bool)
      (hbody : (openRegexSource body members? hanging).head? ≠ some '/' ∧
        (openRegexSource body members? hanging).head? ≠ some '*')
  | blockComment (body : List Char) (hbody : ¬ ['*', '/'] <:+: body)

def Ending.source : Ending → List Char
  | .complete => []
  | .literal quote _ body hanging => quote :: body.flatMap Piece.source ++ hangingSource hanging
  | .regex body members? hanging _ => '/' :: openRegexSource body members? hanging
  | .blockComment body _ => '/' :: '*' :: body

/-- What is left of an ending: of a comment its newlines and its last character, which is read by
its last byte, of anything else all of it. -/
def Ending.left : Ending → List Char
  | .blockComment body _ =>
    body.dropLast.filter (· = '\n') ++ (body.getLast?.map lastByteRead).toList
  | ending => ending.source

/-- The ending may stand where `before` is left of the text up to there. -/
def Ending.Fits (before : List Char) : Ending → Prop
  | .regex _ _ _ _ => RegexMayFollow before
  | _ => True

/-- The text is the tokens and then the ending, each of which may stand where it does, with `before`
left of what comes before the text. -/
structure ReadAs (before text : List Char) (tokens : List Token) (ending : Ending) : Prop where
  source : text = tokens.flatMap Token.source ++ ending.source
  fit : FitIn before ending.source tokens
  ends : ending.Fits (before ++ tokens.flatMap Token.left)

/-! ### Every text can be read -/

/-- Up to a delimiter that no backslash takes, or else up to its end, a text is pieces. -/
theorem exists_pieces (delimiter : Char) : (text : List Char) →
    ∃ body : List (Piece [delimiter]),
      (∃ after, text = body.flatMap Piece.source ++ delimiter :: after) ∨
        ∃ hanging, text = body.flatMap Piece.source ++ hangingSource hanging
  | [] => ⟨[], .inr ⟨false, rfl⟩⟩
  | c :: rest => by
    by_cases hdelimiter : c = delimiter
    · exact ⟨[], .inl ⟨rest, by rw [hdelimiter]; rfl⟩⟩
    by_cases hbackslash : c = '\\'
    · -- What is behind the escaped character is two shorter, and read in the same way.
      subst c
      cases rest with
      | nil => exact ⟨[], .inr ⟨true, rfl⟩⟩
      | cons d rest =>
        obtain ⟨body, ⟨after, rfl⟩ | ⟨hanging, rfl⟩⟩ := exists_pieces delimiter rest
        · exact ⟨.escaped d :: body, .inl ⟨after, rfl⟩⟩
        · exact ⟨.escaped d :: body, .inr ⟨hanging, rfl⟩⟩
    · have hspecial : c ∉ [delimiter] := by simpa using hdelimiter
      obtain ⟨body, ⟨after, rfl⟩ | ⟨hanging, rfl⟩⟩ := exists_pieces delimiter rest
      · exact ⟨.plain c hspecial hbackslash :: body, .inl ⟨after, rfl⟩⟩
      · exact ⟨.plain c hspecial hbackslash :: body, .inr ⟨hanging, rfl⟩⟩

/-- Up to the slash that ends a regular expression, or else up to its end, a text is the parts of
one. -/
theorem exists_regexParts (text : List Char) :
    ∃ body, (∃ after, text = body.flatMap RegexPart.source ++ '/' :: after) ∨
      ∃ members? hanging, text = openRegexSource body members? hanging := by
  induction hlength : text.length using Nat.strong_induction_on generalizing text with
  | _ length ih =>
    subst length
    -- What is in front of a shorter text is put in front of its parts.
    have hcons (part : RegexPart) (rest : List Char) (hlt : rest.length < text.length)
        (htext : text = part.source ++ rest) :
        ∃ body, (∃ after, text = body.flatMap RegexPart.source ++ '/' :: after) ∨
          ∃ members? hanging, text = openRegexSource body members? hanging := by
      obtain ⟨body, ⟨after, hafter⟩ | ⟨members?, hanging, hopen⟩⟩ := ih _ hlt rest rfl
      · refine ⟨part :: body, .inl ⟨after, ?_⟩⟩
        rw [htext, hafter, List.flatMap_cons, List.append_assoc]
      · refine ⟨part :: body, .inr ⟨members?, hanging, ?_⟩⟩
        rw [htext, hopen, openRegexSource, openRegexSource, List.flatMap_cons]
        simp only [List.append_assoc]
    cases text with
    | nil => exact ⟨[], .inr ⟨none, false, rfl⟩⟩
    | cons c rest =>
      by_cases hslash : c = '/'
      · exact ⟨[], .inl ⟨rest, by rw [hslash]; rfl⟩⟩
      by_cases hbackslash : c = '\\'
      · subst c
        cases rest with
        | nil => exact ⟨[], .inr ⟨none, true, rfl⟩⟩
        | cons d rest => exact hcons (.single (.escaped d)) rest (by simp) rfl
      by_cases hclass : c = '['
      · subst c
        obtain ⟨members, ⟨after, rfl⟩ | ⟨hanging, rfl⟩⟩ := exists_pieces ']' rest
        · refine hcons (.charClass members) after (by simp; omega) ?_
          simp [RegexPart.source]
        · exact ⟨[], .inr ⟨some members, hanging, rfl⟩⟩
      · have hspecial : c ∉ ['/', '['] := by simp [hslash, hclass]
        exact hcons (.single (.plain c hspecial hbackslash)) rest (by simp) rfl

/-- Up to what closes a block comment for the first time, or else up to its end, a text does not
close one. -/
theorem exists_blockBody (text : List Char) :
    (∃ body after, text = body ++ '*' :: '/' :: after ∧ ¬ ['*', '/'] <:+: body) ∨
      ¬ ['*', '/'] <:+: text := by
  induction text with
  | nil => exact .inr (by simp)
  | cons c rest ih =>
    by_cases hclose : c = '*' → rest.head? ≠ some '/'
    · rcases ih with ⟨body, after, rfl, hbody⟩ | hrest
      · refine .inl ⟨c :: body, after, rfl, ?_⟩
        rwa [isInfix_close_cons_iff fun hc hhead ↦ hclose hc ?_]
        rw [List.head?_append, hhead]
        rfl
      · exact .inr (by rwa [isInfix_close_cons_iff hclose])
    · obtain ⟨rfl, hhead⟩ : c = '*' ∧ rest.head? = some '/' := by simpa using hclose
      exact .inl ⟨[], rest.tail, by rw [← List.eq_cons_of_mem_head? hhead]; rfl, by simp⟩

/-- The text begins with a token that may stand there, or is what a text may end in. -/
def Begins (before text : List Char) : Prop :=
  (∃ token after, text = Token.source token ++ after ∧ token.Fits before after) ∨
    ∃ ending, text = Ending.source ending ∧ ending.Fits before

theorem begins_literal {quote : Char} (hquote : quote ∈ quotes) (before rest : List Char) :
    Begins before (quote :: rest) := by
  obtain ⟨body, ⟨after, rfl⟩ | ⟨hanging, rfl⟩⟩ := exists_pieces quote rest
  · refine .inl ⟨.literal quote hquote body, after, ?_, trivial⟩
    simp [Token.source]
  · exact .inr ⟨.literal quote hquote body hanging, rfl, trivial⟩

theorem begins_lineComment (before rest : List Char) : Begins before ('/' :: '/' :: rest) := by
  by_cases hline : '\n' ∈ rest
  · obtain ⟨body, after, rfl, hbody⟩ := List.eq_append_cons_of_mem hline
    refine .inl ⟨.lineComment body true hbody, after, ?_, .inl rfl⟩
    simp [Token.source]
  · refine .inl ⟨.lineComment rest false hline, [], ?_, .inr rfl⟩
    simp [Token.source]

theorem begins_blockComment (before rest : List Char) : Begins before ('/' :: '*' :: rest) := by
  rcases exists_blockBody rest with ⟨body, after, rfl, hbody⟩ | hbody
  · refine .inl ⟨.blockComment body hbody, after, ?_, trivial⟩
    simp [Token.source]
  · exact .inr ⟨.blockComment rest hbody, rfl, trivial⟩

theorem begins_slash {before rest : List Char}
    (hrest : rest.head? ≠ some '/' ∧ rest.head? ≠ some '*') : Begins before ('/' :: rest) := by
  by_cases hregex : RegexMayFollow before
  · obtain ⟨body, ⟨after, rfl⟩ | ⟨members?, hanging, rfl⟩⟩ := exists_regexParts rest
    · have hbody : ∃ first ∈ (body.flatMap RegexPart.source).head?, first ≠ '/' ∧ first ≠ '*' := by
        cases hsource : body.flatMap RegexPart.source with
        | nil =>
          rw [hsource] at hrest
          exact absurd rfl hrest.1
        | cons first others =>
          rw [hsource] at hrest
          exact ⟨first, rfl, by simpa using hrest⟩
      refine .inl ⟨.regex body [] hbody (by simp), after, ?_, hregex⟩
      simp [Token.source]
    · exact .inr ⟨.regex body members? hanging hrest, rfl, hregex⟩
  · exact .inl ⟨.division, rest, rfl, hregex, hrest⟩

/-- Every text begins with a token or is what a text may end in, whatever comes before it. -/
theorem begins (before text : List Char) : Begins before text := by
  cases text with
  | nil => exact .inr ⟨.complete, rfl, trivial⟩
  | cons c rest =>
    by_cases hquote : c ∈ quotes
    · exact begins_literal hquote before rest
    by_cases hslash : c = '/'
    · subst c
      by_cases hrest : rest.head? ≠ some '/' ∧ rest.head? ≠ some '*'
      · exact begins_slash hrest
      -- Behind the slash there is another one, or a star.
      rcases not_and_or.mp hrest with hline | hblock
      · rw [List.eq_cons_of_mem_head? (not_not.mp hline)]
        exact begins_lineComment before rest.tail
      · rw [List.eq_cons_of_mem_head? (not_not.mp hblock)]
        exact begins_blockComment before rest.tail
    · exact .inl ⟨.plain c hquote hslash, rest, rfl, trivial⟩

/-- One more token may stand in front of the others. -/
theorem ReadAs.cons {before rest : List Char} {token : Token} {tokens : List Token}
    {ending : Ending} (htoken : token.Fits before rest)
    (h : ReadAs (before ++ token.left) rest tokens ending) :
    ReadAs before (token.source ++ rest) (token :: tokens) ending where
  source := by rw [List.flatMap_cons, List.append_assoc, ← h.source]
  fit := ⟨h.source ▸ htoken, h.fit⟩
  ends := by
    rw [List.flatMap_cons, ← List.append_assoc]
    exact h.ends

theorem Token.source_ne_nil (token : Token) : token.source ≠ [] := by
  cases token <;> simp [Token.source]

/-- Every text is complete tokens and what it ends in. -/
theorem exists_readAs (before text : List Char) :
    ∃ tokens ending, ReadAs before text tokens ending := by
  induction hlength : text.length using Nat.strong_induction_on generalizing before text with
  | _ length ih =>
    rcases begins before text with ⟨token, after, rfl, hfits⟩ | ⟨ending, hsource, hfits⟩
    · have hlt : after.length < length := by
        have hpos := List.length_pos_iff.mpr token.source_ne_nil
        rw [List.length_append] at hlength
        omega
      obtain ⟨tokens, ending, hread⟩ := ih _ hlt (before ++ token.left) after rfl
      exact ⟨token :: tokens, ending, hread.cons hfits⟩
    · refine ⟨[], ending, hsource, trivial, ?_⟩
      rwa [List.flatMap_nil, List.append_nil]

/-! ### What the scan writes at the end -/

/-- A backslash at the end of the text is copied. -/
theorem exists_carries_hanging (enclosure : Enclosure) (hanging : Bool) :
    ∃ stop, Carries (hangingSource hanging) (.inside enclosure false) stop := by
  cases hanging with
  | false => exact ⟨_, carries_nil _⟩
  | true => exact ⟨_, carries_inside enclosure false '\\'⟩

/-- A literal without an end is copied. -/
theorem strip_openLiteral {quote : Char} (hquote : quote ∈ quotes) (body : List (Piece [quote]))
    (hanging : Bool) (before : List Char) :
    Place.code.strip before (quote :: body.flatMap Piece.source ++ hangingSource hanging) =
      bytes (before ++ (quote :: body.flatMap Piece.source ++ hangingSource hanging)) := by
  obtain ⟨stop, hhanging⟩ := exists_carries_hanging (.literal quote) hanging
  have hall := (carries_quote hquote).cons ((carries_literalBody quote body).append hhanging)
  exact hall.strip_eq trivial

theorem exists_carries_openRegexSource (body : List RegexPart)
    (members? : Option (List (Piece [']']))) (hanging : Bool) :
    ∃ stop, Carries (openRegexSource body members? hanging) (.inside (.regex false) false)
      stop := by
  have hbody := Carries.flatMap carries_regexPart body
  cases members? with
  | none =>
    obtain ⟨stop, hhanging⟩ := exists_carries_hanging (.regex false) hanging
    exact ⟨stop, (hbody.append (carries_nil _)).append hhanging⟩
  | some members =>
    obtain ⟨stop, hhanging⟩ := exists_carries_hanging (.regex true) hanging
    exact ⟨stop, (hbody.append (carries_classBody members)).append hhanging⟩

/-- A regular expression without an end is copied. -/
theorem strip_openRegex {body : List RegexPart} {members? : Option (List (Piece [']']))}
    {hanging : Bool} (hbody : (openRegexSource body members? hanging).head? ≠ some '/' ∧
      (openRegexSource body members? hanging).head? ≠ some '*')
    {before : List Char} (hregex : RegexMayFollow before) :
    Place.code.strip before ('/' :: openRegexSource body members? hanging) =
      bytes (before ++ '/' :: openRegexSource body members? hanging) := by
  obtain ⟨stop, hopen⟩ := exists_carries_openRegexSource body members? hanging
  have hfollows : (Place.inside (.regex false) false).Follows (before ++ ['/']) :=
    ⟨trivial, fun h ↦ Bool.noConfusion h⟩
  rw [strip_regexSlash_append hregex hbody, hopen.strip_eq hfollows, List.append_assoc]
  rfl

/-- Of a block comment without an end the newlines are written, and the last byte of all. -/
theorem strip_openBlockComment {body : List Char} {c : Char}
    (hbody : ¬ ['*', '/'] <:+: body ++ [c]) (before : List Char) :
    Place.code.strip before ('/' :: '*' :: (body ++ [c])) =
      bytes (before ++ body.filter (· = '\n')) ++ [lastByte c] := by
  rw [strip_code_block, strip_blockComment_append hbody, strip_blockComment_singleton]

def Ending.IsComment : Ending → Prop
  | .blockComment _ _ => True
  | _ => False

/-- The ending leaves less than all bytes of a character. -/
def Ending.Cuts : Ending → Prop
  | .blockComment body _ => ∃ c ∈ body.getLast?, 0x80 ≤ c.toNat
  | _ => False

/-- Of an ending that cuts no character the scan writes what is left of it. -/
theorem strip_ending {ending : Ending} {before : List Char} (hfits : ending.Fits before)
    (hcuts : ¬ ending.Cuts) :
    Place.code.strip before ending.source = bytes (before ++ ending.left) := by
  cases ending with
  | complete => exact (carries_nil .code).strip_eq trivial
  | literal quote hquote body hanging => exact strip_openLiteral hquote body hanging before
  | regex body members? hanging hbody => exact strip_openRegex hbody hfits
  | blockComment body hbody =>
    rcases List.eq_nil_or_concat' body with rfl | ⟨body, c, rfl⟩
    · exact (carries_nil .blockComment).strip_eq trivial
    · have hc : c.toNat < 0x80 := by simpa [Ending.Cuts] using hcuts
      rw [Ending.source, strip_openBlockComment hbody]
      simp [Ending.left, lastByte, lastByteRead, hc, utf8EncodeChar_of_lt hc]

/-- The text ends inside a block comment, with a character that is not ASCII. -/
def EndsCut (text : List Char) (ending : Ending) : Prop :=
  ending.IsComment ∧ ∃ c ∈ text.getLast?, 0x80 ≤ c.toNat

/-- A text ends inside a block comment, with a character that is not ASCII, exactly if its ending
cuts that character. -/
theorem ReadAs.endsCut_iff {before text : List Char} {tokens : List Token} {ending : Ending}
    (h : ReadAs before text tokens ending) : EndsCut text ending ↔ ending.Cuts := by
  cases ending with
  | blockComment body hbody =>
    have hlast : text.getLast? = some (body.getLast?.getD '*') := by
      rw [h.source]
      simp [Ending.source, List.getLast?_cons]
    rw [EndsCut, hlast, Ending.Cuts]
    cases body.getLast? <;> simp [Ending.IsComment]
  | _ => exact iff_of_false (fun hcut ↦ hcut.1) id

/-- The last byte of a longer character makes no text. -/
theorem bytes_append_lastByte_ne {c : Char} (hc : 0x80 ≤ c.toNat) (front text : List Char) :
    bytes front ++ [lastByte c] ≠ bytes text := by
  intro h
  have hdecode := congrArg decode h
  rw [decode_bytes, decode_bytes_append_lastByte, lastByteRead, if_neg hc.not_gt] at hdecode
  have hlength := congrArg List.length h
  have hthree : (String.utf8EncodeChar replacement).length = 3 := by decide
  rw [← hdecode, bytes_append] at hlength
  simp [hthree] at hlength

section Reading

variable {text : List Char} {tokens : List Token} {ending : Ending}

/-- The bytes of a text are written up to its ending, and then those of the ending. -/
theorem ReadAs.stripBytes_eq (h : ReadAs [] text tokens ending) :
    stripBytes (bytes text) =
      Place.code.strip (tokens.flatMap Token.left) ending.source := by
  rw [stripBytes_bytes, h.source, strip_tokens h.fit, List.nil_append]

/-- If the ending cuts no character, the bytes left are those of a text. -/
theorem ReadAs.stripBytes_eq_bytes (h : ReadAs [] text tokens ending) (hcuts : ¬ ending.Cuts) :
    stripBytes (bytes text) = bytes (tokens.flatMap Token.left ++ ending.left) := by
  have hends := h.ends
  rw [List.nil_append] at hends
  rw [h.stripBytes_eq, strip_ending hends hcuts]

theorem ReadAs.exists_of_cuts (h : ReadAs [] text tokens ending) (hcuts : ending.Cuts) :
    ∃ body hbody c, ending = .blockComment body hbody ∧ 0x80 ≤ c.toNat ∧
      ending.left = body.filter (· = '\n') ++ [replacement] ∧
      stripBytes (bytes text) =
        bytes (tokens.flatMap Token.left ++ body.filter (· = '\n')) ++ [lastByte c] := by
  cases ending with
  | blockComment body hbody =>
    obtain ⟨c, hlast, hc⟩ := hcuts
    obtain ⟨front, rfl⟩ := List.getLast?_eq_some_iff.mp hlast
    have hline : c ≠ '\n' := by
      rintro rfl
      exact absurd hc (by decide)
    refine ⟨_, hbody, c, rfl, hc, ?_, ?_⟩
    · simp [Ending.left, lastByteRead, hline, hc.not_gt]
    · rw [h.stripBytes_eq, Ending.source, strip_openBlockComment hbody]
      simp [hline]
  | _ => exact hcuts.elim

/-- Tokens before what the text ends in are left as they are without it. -/
theorem ReadAs.stripComments_front (h : ReadAs [] text tokens ending) :
    stripComments (tokens.flatMap Token.source) = tokens.flatMap Token.left := by
  rw [stripComments_eq_kept, kept_tokens h.fit.fit]

end Reading

/-- The removal of comments leaves a text of which it wrote all bytes, unless the text ends inside a
block comment with a character that is not ASCII. Of such a text it writes bytes that are no text,
and leaves what it would of the text before the comment, the newlines of the comment, and U+FFFD. -/
theorem stripComments_damages_end_only (text : List Char) :
    (∃ tokens ending, ReadAs [] text tokens ending) ∧
    ∀ tokens ending, ReadAs [] text tokens ending →
      stripComments text = tokens.flatMap Token.left ++ ending.left ∧
      (¬ EndsCut text ending → bytes (stripComments text) = stripBytes (bytes text)) ∧
      (EndsCut text ending →
        (∀ left, stripBytes (bytes text) ≠ bytes left) ∧
        ∃ body hbody, ending = .blockComment body hbody ∧
          stripComments text = stripComments (tokens.flatMap Token.source) ++
            body.filter (· = '\n') ++ [replacement]) := by
  refine ⟨exists_readAs [] text, fun tokens ending h ↦ ?_⟩
  rw [h.endsCut_iff, h.stripComments_front]
  by_cases hcuts : ending.Cuts
  · obtain ⟨body, hbody, c, hending, hc, hleft, hstrip⟩ := h.exists_of_cuts hcuts
    have hdecode : stripComments text =
        tokens.flatMap Token.left ++ body.filter (· = '\n') ++ [replacement] := by
      rw [stripComments, hstrip, decode_bytes_append_lastByte, lastByteRead, if_neg hc.not_gt]
    refine ⟨?_, fun hnot ↦ absurd hcuts hnot, fun _ ↦ ⟨?_, body, hbody, hending, hdecode⟩⟩
    · rw [hdecode, hleft, List.append_assoc]
    · intro left
      rw [hstrip]
      exact bytes_append_lastByte_ne hc _ left
  · have hstrip := h.stripBytes_eq_bytes hcuts
    have hdecode : stripComments text = tokens.flatMap Token.left ++ ending.left := by
      rw [stripComments, hstrip, decode_bytes]
    exact ⟨hdecode, fun _ ↦ by rw [hdecode, hstrip], fun hcut ↦ absurd hcut hcuts⟩

/-- A literal with characters that are not ASCII, one of them escaped, a comment that is closed, and
one that is not and ends in such a character; and a text that ends inside of a class, in which a
comment begins in appearance, with a backslash. -/
theorem stripComments_damages_end_only_of_comment :
    let cut := "a='é\\ü'/*1\n*/;/*x\né".toList
    let whole := "=/[é/*\\".toList
    (∃ tokens ending, ReadAs [] cut tokens ending ∧ EndsCut cut ending) ∧
      (∀ left, stripBytes (bytes cut) ≠ bytes left) ∧
      stripComments cut = "a='é\\ü'\n;\n\uFFFD".toList ∧
      (∃ tokens ending, ReadAs [] whole tokens ending ∧ ¬ EndsCut whole ending) ∧
      bytes (stripComments whole) = stripBytes (bytes whole) := by
  intro cut whole
  let tokens : List Token :=
    [.plain 'a' (by decide) (by decide), .plain '=' (by decide) (by decide),
      .literal '\'' (by decide) [.plain 'é' (by decide) (by decide), .escaped 'ü'],
      .blockComment ['1', '\n'] (by decide), .plain ';' (by decide) (by decide)]
  let ending : Ending := .blockComment ['x', '\n', 'é'] (by decide)
  have hcut : ReadAs [] cut tokens ending := ⟨rfl, by decide, trivial⟩
  have hends : EndsCut cut ending := ⟨trivial, 'é', rfl, by decide⟩
  let opener : Token := .plain '=' (by decide) (by decide)
  let regex : Ending :=
    .regex [] (some [.plain 'é' (by decide) (by decide), .plain '/' (by decide) (by decide),
      .plain '*' (by decide) (by decide)]) true (by decide)
  have hregex : RegexMayFollow ['='] := by decide
  have hwhole : ReadAs [] whole [opener] regex := ⟨rfl, by decide, hregex⟩
  have hnot : ¬ EndsCut whole regex := fun h ↦ h.1
  obtain ⟨hleft, -, hdamage⟩ := (stripComments_damages_end_only cut).2 tokens ending hcut
  obtain ⟨-, hbytes, -⟩ := (stripComments_damages_end_only whole).2 [opener] regex hwhole
  exact ⟨⟨tokens, ending, hcut, hends⟩, (hdamage hends).1, hleft, ⟨[opener], regex, hwhole, hnot⟩,
    hbytes hnot⟩

end PluginRecovery.Script
