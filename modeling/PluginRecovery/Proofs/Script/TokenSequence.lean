import PluginRecovery.Proofs.Script.CommentScan

/-!
The removal of comments on source that is made of tokens: characters, literals, divisions, regular
expressions and comments, each of them complete. What begins with a slash depends on the text before
it, so a sequence of tokens must fit (`Fit`): a division stands where no regular expression may, a
regular expression stands where one may, and only the last line comment may do without its newline.
The scan carries a text from one place to another when it writes all bytes of it on the way
(`Carries`); so it does with the pieces that tokens are made of, and of tokens that fit it writes
what is left of each, whatever follows (`strip_tokens`). `stripComments_flatMap_source` says that of
such source exactly the comments go, and of these all but their newlines.
-/

set_option autoImplicit false
set_option relaxedAutoImplicit false

namespace PluginRecovery.Script

open PluginRecovery.Text

/-! ### Tokens -/

/-- A character that is none of those that would end or open something, or any character with a
backslash before it. -/
inductive Piece (special : List Char) where
  | plain (c : Char) (hspecial : c ∉ special) (hbackslash : c ≠ '\\')
  | escaped (c : Char)

def Piece.source {special : List Char} : Piece special → List Char
  | .plain c _ _ => [c]
  | .escaped c => ['\\', c]

/-- A part of a regular expression: a piece, or a class, in which a slash ends nothing. -/
inductive RegexPart where
  | single (piece : Piece ['/', '['])
  | charClass (members : List (Piece [']']))

def RegexPart.source : RegexPart → List Char
  | .single piece => piece.source
  | .charClass members => '[' :: members.flatMap Piece.source ++ [']']

/-- A token of a script. A slash as the first character of a regular expression would begin a line
comment, and a star a block comment. -/
inductive Token where
  | plain (c : Char) (hquote : c ∉ quotes) (hslash : c ≠ '/')
  | literal (quote : Char) (hquote : quote ∈ quotes) (body : List (Piece [quote]))
  | division
  | regex (body : List RegexPart) (flags : List Char)
      (hbody : ∃ first ∈ (body.flatMap RegexPart.source).head?, first ≠ '/' ∧ first ≠ '*')
      (hflags : ∀ c ∈ flags, c.isAlpha)
  | lineComment (body : List Char) (ended : Bool) (hbody : '\n' ∉ body)
  | blockComment (body : List Char) (hbody : ¬ ['*', '/'] <:+: body)

def Token.source : Token → List Char
  | .plain c _ _ => [c]
  | .literal quote _ body => quote :: body.flatMap Piece.source ++ [quote]
  | .division => ['/']
  | .regex body flags _ _ => '/' :: body.flatMap RegexPart.source ++ '/' :: flags
  | .lineComment body ended _ => '/' :: '/' :: body ++ if ended then ['\n'] else []
  | .blockComment body _ => '/' :: '*' :: body ++ ['*', '/']

/-- What is left of a token: of a comment its newlines, of any other token all of it. -/
def Token.left : Token → List Char
  | .lineComment _ ended _ => if ended then ['\n'] else []
  | .blockComment body _ => body.filter (· = '\n')
  | token => token.source

/-- The token may stand where `before` is left of the text up to there and `after` follows. -/
def Token.Fits (before after : List Char) : Token → Prop
  | .division => ¬ RegexMayFollow before ∧ after.head? ≠ some '/' ∧ after.head? ≠ some '*'
  | .regex _ _ _ _ => RegexMayFollow before
  | .lineComment _ ended _ => ended = true ∨ after = []
  | _ => True

/-- Each of the tokens may stand where it does, with `before` left of the text before them. -/
def Fit (before : List Char) : List Token → Prop
  | [] => True
  | token :: tokens =>
    token.Fits before (tokens.flatMap Token.source) ∧ Fit (before ++ token.left) tokens

instance decidableFits (before after : List Char) :
    (token : Token) → Decidable (token.Fits before after)
  | .division => inferInstanceAs (Decidable (_ ∧ _ ∧ _))
  | .regex _ _ _ _ => inferInstanceAs (Decidable (RegexMayFollow before))
  | .lineComment _ _ _ => inferInstanceAs (Decidable (_ ∨ _))
  | .plain _ _ _ | .literal _ _ _ | .blockComment _ _ => .isTrue trivial

instance decidableFit (before : List Char) (tokens : List Token) : Decidable (Fit before tokens) :=
  match tokens with
  | [] => .isTrue trivial
  | token :: tokens =>
    have := decidableFit (before ++ token.left) tokens
    inferInstanceAs (Decidable (_ ∧ _))

/-! ### What the scan copies -/

/-- The scan writes the text and gets from one place to the other with it. -/
def Carries (text : List Char) (start stop : Place) : Prop :=
  ∀ before after, start.Follows before →
    start.strip before (text ++ after) = stop.strip (before ++ text) after ∧
      stop.Follows (before ++ text)

theorem carries_nil (place : Place) : Carries [] place place := by
  intro before after h
  rw [List.append_nil]
  exact ⟨rfl, h⟩

/-- Texts that are copied one after the other are copied as one. -/
theorem Carries.append {front back : List Char} {start middle stop : Place}
    (hfront : Carries front start middle) (hback : Carries back middle stop) :
    Carries (front ++ back) start stop := by
  intro before after h
  obtain ⟨hstrip, hfollows⟩ := hfront before (back ++ after) h
  rw [List.append_assoc, hstrip, ← List.append_assoc before]
  exact hback (before ++ front) after hfollows

theorem Carries.cons {c : Char} {text : List Char} {start middle stop : Place}
    (hc : Carries [c] start middle) (htext : Carries text middle stop) :
    Carries (c :: text) start stop :=
  hc.append htext

theorem Carries.flatMap {α : Type} {f : α → List Char} {place : Place}
    (h : ∀ a, Carries (f a) place place) (items : List α) :
    Carries (items.flatMap f) place place := by
  induction items with
  | nil => exact carries_nil place
  | cons a items ih =>
    rw [List.flatMap_cons]
    exact (h a).append ih

/-- A text that the scan gets to the end of with is all written. -/
theorem Carries.strip_eq {text before : List Char} {start stop : Place}
    (h : Carries text start stop) (hfollows : start.Follows before) :
    start.strip before text = bytes (before ++ text) := by
  obtain ⟨hstrip, hstop⟩ := h before [] hfollows
  rw [List.append_nil] at hstrip
  rw [hstrip, strip_nil hstop]

theorem carries_inside (enclosure : Enclosure) (escaped : Bool) (c : Char) :
    Carries [c] (.inside enclosure escaped) (enclosure.after escaped c) :=
  fun before after h ↦
    ⟨strip_inside_cons h c after, Enclosure.follows_after h.1 escaped before c⟩

/-- A character that is no backslash is copied inside an enclosure. -/
theorem carries_plain {enclosure : Enclosure} {c : Char} (hbackslash : c ≠ '\\') {stop : Place}
    (hstop : enclosure.afterPlain c = stop) : Carries [c] (.inside enclosure false) stop := by
  have hafter : enclosure.after false c = stop := by
    rw [Enclosure.after, if_neg Bool.false_ne_true, if_neg hbackslash, hstop]
  exact hafter ▸ carries_inside enclosure false c

/-- A piece is copied where none but its special characters end or open anything. -/
theorem carries_piece {special : List Char} {enclosure : Enclosure}
    (h : ∀ c, c ∉ special → enclosure.afterPlain c = .inside enclosure false)
    (piece : Piece special) :
    Carries piece.source (.inside enclosure false) (.inside enclosure false) := by
  cases piece with
  | plain c hspecial hbackslash => exact carries_plain hbackslash (h c hspecial)
  | escaped c => exact (carries_inside enclosure false '\\').cons (carries_inside enclosure true c)

/-- The pieces of a literal are copied within it. -/
theorem carries_literalBody (quote : Char) (body : List (Piece [quote])) :
    Carries (body.flatMap Piece.source) (.inside (.literal quote) false)
      (.inside (.literal quote) false) := by
  refine Carries.flatMap (carries_piece fun c hc ↦ ?_) body
  have hne : c ≠ quote := by simpa using hc
  exact if_neg hne

/-- A bracket and the members behind it are copied as the beginning of a class. -/
theorem carries_classBody (members : List (Piece [']'])) :
    Carries ('[' :: members.flatMap Piece.source) (.inside (.regex false) false)
      (.inside (.regex true) false) := by
  have hopen : Carries ['['] (.inside (.regex false) false) (.inside (.regex true) false) :=
    carries_plain (by decide) rfl
  refine hopen.cons (Carries.flatMap (carries_piece fun c hc ↦ ?_) members)
  have hne : c ≠ ']' := by simpa using hc
  simp [Enclosure.afterPlain, hne]

/-- Every part of a regex leads back into the regex. -/
theorem carries_regexPart (part : RegexPart) :
    Carries part.source (.inside (.regex false) false) (.inside (.regex false) false) := by
  cases part with
  | single piece =>
    refine carries_piece (fun c hc ↦ ?_) piece
    have hne : c ≠ '/' ∧ c ≠ '[' := by simpa using hc
    simp [Enclosure.afterPlain, hne]
  | charClass members =>
    have hclose : Carries [']'] (.inside (.regex true) false) (.inside (.regex false) false) :=
      carries_plain (by decide) rfl
    exact (carries_classBody members).append hclose

/-- A character of code that is no slash is copied. -/
theorem carries_code {c : Char} (hslash : c ≠ '/') :
    Carries [c] .code (if c ∈ quotes then .inside (.literal c) false else .code) := by
  intro before after _
  have hplace : Place.afterCode before c =
      if c ∈ quotes then Place.inside (.literal c) false else .code := by
    simp [Place.afterCode, hslash]
  rw [← hplace]
  exact ⟨strip_code_cons fun h ↦ absurd h hslash, (Place.isOpen_afterCode before c).follows _⟩

/-- The quote that opens a literal is copied. -/
theorem carries_quote {quote : Char} (hquote : quote ∈ quotes) :
    Carries [quote] .code (.inside (.literal quote) false) := by
  have hslash : quote ≠ '/' := by
    rintro rfl
    exact absurd hquote (by decide)
  have hopen := carries_code hslash
  rwa [if_pos hquote] at hopen

/-- A whole literal is copied, and code follows it. -/
theorem carries_literal {quote : Char} (hquote : quote ∈ quotes) (body : List (Piece [quote])) :
    Carries (quote :: body.flatMap Piece.source ++ [quote]) .code .code := by
  have hbackslash : quote ≠ '\\' := by
    rintro rfl
    exact absurd hquote (by decide)
  have hclose : Carries [quote] (.inside (.literal quote) false) .code :=
    carries_plain hbackslash (if_pos rfl)
  exact (carries_quote hquote).cons ((carries_literalBody quote body).append hclose)

/-- Code without quotes and slashes is copied. -/
theorem carries_code_of_forall {text : List Char} (h : ∀ c ∈ text, c ∉ quotes ∧ c ≠ '/') :
    Carries text .code .code := by
  induction text with
  | nil => exact carries_nil .code
  | cons c text ih =>
    obtain ⟨⟨hquote, hslash⟩, htext⟩ := List.forall_mem_cons.mp h
    have hcode := carries_code hslash
    rw [if_neg hquote] at hcode
    exact hcode.cons (ih htext)

/-- The flags of a regular expression are copied as code. -/
theorem carries_flags {flags : List Char} (hflags : ∀ c ∈ flags, c.isAlpha) :
    Carries flags .code .code := by
  refine carries_code_of_forall fun c hmem ↦ ⟨fun hquote ↦ ?_, ?_⟩
  · have hletters : ∀ quote ∈ quotes, quote.isAlpha = false := by simp [quotes]
    exact absurd (hflags c hmem) (Bool.eq_false_iff.mp (hletters c hquote))
  · rintro rfl
    exact absurd (hflags '/' hmem) (by decide)

/-- A slash that begins neither a comment nor a regular expression is copied. -/
theorem strip_division_append {before after : List Char} (hregex : ¬ RegexMayFollow before)
    (hafter : after.head? ≠ some '/' ∧ after.head? ≠ some '*') :
    Place.code.strip before ('/' :: after) = Place.code.strip (before ++ ['/']) after := by
  rw [strip_code_cons fun _ ↦ hafter, Place.afterCode_slash, if_neg hregex]

/-- A slash that begins no comment opens a regular expression where one may follow. -/
theorem strip_regexSlash_append {before after : List Char} (hregex : RegexMayFollow before)
    (hafter : after.head? ≠ some '/' ∧ after.head? ≠ some '*') :
    Place.code.strip before ('/' :: after) =
      (Place.inside (.regex false) false).strip (before ++ ['/']) after := by
  rw [strip_code_cons fun _ ↦ hafter, Place.afterCode_slash, if_pos hregex]

/-- A regular expression is copied where one may follow. -/
theorem strip_regex_append {body : List RegexPart} {flags before : List Char}
    (hbody : ∃ first ∈ (body.flatMap RegexPart.source).head?, first ≠ '/' ∧ first ≠ '*')
    (hflags : ∀ c ∈ flags, c.isAlpha) (h : RegexMayFollow before) (after : List Char) :
    Place.code.strip before ('/' :: (body.flatMap RegexPart.source ++ '/' :: flags) ++ after) =
      Place.code.strip (before ++ '/' :: (body.flatMap RegexPart.source ++ '/' :: flags))
        after := by
  have hclose : Carries ['/'] (.inside (.regex false) false) .code :=
    carries_plain (by decide) rfl
  have hrest : Carries (body.flatMap RegexPart.source ++ '/' :: flags)
      (.inside (.regex false) false) .code :=
    (Carries.flatMap carries_regexPart body).append (hclose.cons (carries_flags hflags))
  have hfirst : ((body.flatMap RegexPart.source ++ '/' :: flags) ++ after).head? ≠ some '/' ∧
      ((body.flatMap RegexPart.source ++ '/' :: flags) ++ after).head? ≠ some '*' := by
    obtain ⟨first, hfirst, hne⟩ := hbody
    rw [List.eq_cons_of_mem_head? hfirst]
    simpa using hne
  have hopen : (Place.inside (.regex false) false).Follows (before ++ ['/']) :=
    ⟨trivial, fun h ↦ Bool.noConfusion h⟩
  rw [List.cons_append, strip_regexSlash_append h hfirst, (hrest _ after hopen).1,
    List.append_assoc before]
  rfl

/-! ### What the scan leaves out -/

/-- What has no newline is left out of a line comment. -/
theorem strip_lineComment_append {body : List Char} (hbody : '\n' ∉ body)
    (before after : List Char) :
    Place.lineComment.strip before (body ++ after) = Place.lineComment.strip before after := by
  induction body with
  | nil => rfl
  | cons c body ih =>
    obtain ⟨hc, hbody⟩ : '\n' ≠ c ∧ '\n' ∉ body := by simpa using hbody
    rw [List.cons_append, strip_lineComment_cons hc.symm, ih hbody]

/-- What does not close a block comment leaves its newlines, when more of the text follows. -/
theorem strip_blockComment_append {body : List Char} {next : Char}
    (hbody : ¬ ['*', '/'] <:+: body ++ [next]) (before after : List Char) :
    Place.blockComment.strip before (body ++ next :: after) =
      Place.blockComment.strip (before ++ body.filter (· = '\n')) (next :: after) := by
  induction body generalizing before with
  | nil => simp
  | cons c body ih =>
    have hne : body ++ next :: after ≠ [] := by simp
    have hrest : ¬ ['*', '/'] <:+: body ++ [next] := fun h ↦ hbody (List.infix_cons h)
    -- The first of two characters that close the comment would be in the body.
    have hclose (tail : List Char) (hc : c = '*') (htail : body ++ next :: after = '/' :: tail) :
        False := by
      subst c
      refine hbody (List.IsPrefix.isInfix ?_)
      cases body with
      | nil =>
        obtain rfl := (List.cons.inj htail).1
        exact List.prefix_refl _
      | cons d body =>
        obtain rfl := (List.cons.inj htail).1
        exact ⟨body ++ [next], rfl⟩
    by_cases hc : c = '\n'
    · subst c
      rw [List.cons_append, strip_blockComment_newline hne, ih hrest]
      simp
    · rw [List.cons_append, strip_blockComment_cons hc hne hclose, ih hrest]
      simp [hc]

/-- A block comment that is closed leaves its newlines. -/
theorem strip_blockComment_closed {body : List Char} (hbody : ¬ ['*', '/'] <:+: body)
    (before after : List Char) :
    Place.blockComment.strip before (body ++ '*' :: '/' :: after) =
      Place.code.strip (before ++ body.filter (· = '\n')) after := by
  have hstar : ¬ ['*', '/'] <:+: body ++ ['*'] := by
    rw [List.infix_concat_iff, not_or]
    refine ⟨fun hsuffix ↦ ?_, hbody⟩
    have hlast := hsuffix.getLast (List.cons_ne_nil '*' ['/'])
    simp at hlast
  rw [strip_blockComment_append hstar, strip_blockComment_close]

/-! ### Sequences of tokens -/

/-- Of a token that fits the scan writes what is left of it. -/
theorem strip_source_append {token : Token} {before after : List Char}
    (h : token.Fits before after) :
    Place.code.strip before (token.source ++ after) =
      Place.code.strip (before ++ token.left) after := by
  cases token with
  | plain c hquote hslash =>
    have hcode := carries_code hslash
    rw [if_neg hquote] at hcode
    exact (hcode before after trivial).1
  | literal quote hquote body => exact (carries_literal hquote body before after trivial).1
  | division => exact strip_division_append h.1 h.2
  | regex body flags hbody hflags => exact strip_regex_append hbody hflags h after
  | lineComment body ended hbody =>
    have hopen : Place.code.strip before (Token.source (.lineComment body ended hbody) ++ after) =
        Place.lineComment.strip before ((if ended then ['\n'] else []) ++ after) := by
      simp only [Token.source, List.cons_append, List.append_assoc]
      rw [strip_code_line, strip_lineComment_append hbody]
    rw [hopen]
    cases ended with
    | true => exact strip_lineComment_newline before after
    | false =>
      obtain rfl : after = [] := h.resolve_left Bool.false_ne_true
      simp only [Token.left, Bool.false_eq_true, if_false, List.append_nil]
      rfl
  | blockComment body hbody =>
    simp only [Token.source, List.cons_append, List.append_assoc, List.nil_append]
    rw [strip_code_block, strip_blockComment_closed hbody]
    rfl

/-- Each of the tokens may stand where it does, with `before` left of the text before them and
`after` behind them. -/
def FitIn (before after : List Char) : List Token → Prop
  | [] => True
  | token :: tokens =>
    token.Fits before (tokens.flatMap Token.source ++ after) ∧
      FitIn (before ++ token.left) after tokens

theorem Token.Fits.of_append {token : Token} {before rest after : List Char}
    (h : token.Fits before (rest ++ after)) : token.Fits before rest := by
  cases token with
  | division =>
    obtain ⟨hregex, hafter⟩ := h
    cases rest with
    | nil => exact ⟨hregex, by simp⟩
    | cons c rest => exact ⟨hregex, hafter⟩
  | lineComment body ended hbody => exact h.imp_right fun hnil ↦ (List.append_eq_nil_iff.mp hnil).1
  | _ => exact h

/-- With nothing behind them tokens fit as a whole text does. -/
theorem fitIn_nil_iff {before : List Char} {tokens : List Token} :
    FitIn before [] tokens ↔ Fit before tokens := by
  induction tokens generalizing before with
  | nil => exact Iff.rfl
  | cons token tokens ih => rw [FitIn, Fit, List.append_nil, ih]

theorem FitIn.fit {before after : List Char} {tokens : List Token}
    (h : FitIn before after tokens) : Fit before tokens := by
  induction tokens generalizing before with
  | nil => trivial
  | cons token tokens ih => exact ⟨h.1.of_append, ih h.2⟩

instance decidableFitIn (before after : List Char) (tokens : List Token) :
    Decidable (FitIn before after tokens) :=
  match tokens with
  | [] => .isTrue trivial
  | token :: tokens =>
    have := decidableFitIn (before ++ token.left) after tokens
    inferInstanceAs (Decidable (_ ∧ _))

/-- Of tokens that fit the scan writes what is left of each. -/
theorem strip_tokens {before after : List Char} {tokens : List Token}
    (h : FitIn before after tokens) :
    Place.code.strip before (tokens.flatMap Token.source ++ after) =
      Place.code.strip (before ++ tokens.flatMap Token.left) after := by
  induction tokens generalizing before with
  | nil => simp
  | cons token tokens ih =>
    obtain ⟨htoken, htokens⟩ := h
    rw [List.flatMap_cons, List.flatMap_cons, List.append_assoc, strip_source_append htoken,
      ih htokens, List.append_assoc]

/-! ### What is left -/

/-- What the scan writes on the way is left. -/
theorem kept_of_strip {start stop : Place} {before text left written after : List Char}
    (h : start.strip before text = stop.strip written after) (hwritten : before ++ left = written)
    (hstart : start.Follows before) (hstop : stop.Follows written) :
    kept start before text = left ++ kept stop written after := by
  have hkept := decode_strip start before text hstart
  rw [h, decode_strip stop written after hstop, ← hwritten, List.append_assoc] at hkept
  rw [← hwritten]
  exact (List.append_cancel_left hkept).symm

/-- The scan copies the text and gets from one place to the other with it. -/
def Copies (text : List Char) (start stop : Place) : Prop :=
  ∀ before after, kept start before (text ++ after) = text ++ kept stop (before ++ text) after

/-- Code without quotes and slashes is left. -/
theorem copies_code_of_forall {text : List Char} (h : ∀ c ∈ text, c ∉ quotes ∧ c ≠ '/') :
    Copies text .code .code :=
  fun before after ↦
    kept_of_strip (carries_code_of_forall h before after trivial).1 rfl trivial trivial

/-- A slash that begins neither a comment nor a regular expression is left. -/
theorem kept_division_append {before after : List Char} (hregex : ¬ RegexMayFollow before)
    (hafter : after.head? ≠ some '/' ∧ after.head? ≠ some '*') :
    kept .code before ('/' :: after) = '/' :: kept .code (before ++ ['/']) after :=
  kept_of_strip (strip_division_append hregex hafter) rfl trivial trivial

theorem kept_lineComment_append {body : List Char} (hbody : '\n' ∉ body)
    (before after : List Char) :
    kept .lineComment before (body ++ after) = kept .lineComment before after := by
  have hnone := List.append_nil before
  exact kept_of_strip (strip_lineComment_append hbody before after) hnone trivial trivial

/-- The scan leaves of tokens that fit what is left of each. -/
theorem kept_tokens {before : List Char} {tokens : List Token} (h : Fit before tokens) :
    kept .code before (tokens.flatMap Token.source) = tokens.flatMap Token.left := by
  have hstrip := strip_tokens (fitIn_nil_iff.mpr h)
  rw [List.append_nil] at hstrip
  have hkept := kept_of_strip hstrip rfl trivial trivial
  rwa [kept_nil, List.append_nil] at hkept

/-- Of source that is made of tokens which fit, every comment goes but for its newlines, and all
else stays. -/
theorem stripComments_flatMap_source (tokens : List Token) (h : Fit [] tokens) :
    stripComments (tokens.flatMap Token.source) = tokens.flatMap Token.left := by
  rw [stripComments_eq_kept, kept_tokens h]

/-- A literal that holds an escaped quote and begins a comment in appearance, a division right after
it, a block comment with a newline, a regular expression with a slash in a class and an escaped one,
flags right before a comment, and a comment without its newline. -/
theorem stripComments_source_mixed :
    ∃ tokens, Fit [] tokens ∧
      tokens.flatMap Token.source = "x=\"//\\\"\"/b/*\n**/=/[/\"]\\//g// '\n,//!".toList ∧
      stripComments "x=\"//\\\"\"/b/*\n**/=/[/\"]\\//g// '\n,//!".toList =
        "x=\"//\\\"\"/b\n=/[/\"]\\//g\n,".toList :=
  let tokens : List Token :=
    [.plain 'x' (by decide) (by decide), .plain '=' (by decide) (by decide),
      .literal '"' (by decide)
        [.plain '/' (by decide) (by decide), .plain '/' (by decide) (by decide), .escaped '"'],
      .division, .plain 'b' (by decide) (by decide), .blockComment ['\n', '*'] (by decide),
      .plain '=' (by decide) (by decide),
      .regex [.charClass [.plain '/' (by decide) (by decide), .plain '"' (by decide) (by decide)],
        .single (.escaped '/')] ['g'] ⟨'[', rfl, by decide, by decide⟩ (by simp),
      .lineComment [' ', '\''] true (by decide), .plain ',' (by decide) (by decide),
      .lineComment ['!'] false (by decide)]
  ⟨tokens, by decide, rfl, stripComments_flatMap_source tokens (by decide)⟩

end PluginRecovery.Script
