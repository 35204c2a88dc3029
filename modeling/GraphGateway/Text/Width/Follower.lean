import GraphGateway.Text.Width.Character
import GraphGateway.Text.Width.Emoji
import GraphGateway.Text.Width.Letter

/-!
# What stands behind a character

How many columns a character takes may depend on what stands behind it: two letters are written as
one, several emoji as one picture, and a selector changes the form of the character before it. A
text is therefore read from its end, and a short description of what has been read is carried along.
-/

namespace GraphGateway.Text

/-- The second part of a sign that is written for two letters. -/
inductive LigatureEnd where
  /-- A Hebrew lamed, joined to an alef before it. -/
  | lamed
  /-- A Buginese ya, joined to a vowel i before it. -/
  | ya
  /-- A Buginese vowel i with the ya joined to it, before a letter a. -/
  | yaWithVowel
  /-- A Tifinagh consonant, joined to a consonant before it. -/
  | tifinagh
  /-- The sign that joins two Tifinagh consonants, with the second of them. -/
  | joinedTifinagh
  /-- A Lisu tone letter, paired with the one before it. -/
  | lisuTone
  /-- An Old Turkic i, joined to the letter before it. -/
  | oldTurkic
  /-- A Khmer letter, which a sign before it moves below another letter. -/
  | khmer
  deriving DecidableEq, Repr

/-- What stands behind a character, as far as the columns of the character depend on it. -/
inductive Follower where
  /-- Nothing of any effect. -/
  | other
  /-- An emoji, or several shown as one. -/
  | emoji
  /-- A skin tone. -/
  | skinTone
  /-- A regional indicator by itself. -/
  | region
  /-- Regional indicators. -/
  | regions
  /-- A joiner before an emoji, perhaps with the frame of a key before it. -/
  | joiner (framed : Bool)
  /-- A regional indicator, joined to an emoji behind it. -/
  | joinedRegion
  /-- Regional indicators, an even number or not, joined to an emoji behind them. -/
  | joinedRegions (even : Bool)
  /-- A tag with a number of letters and digits before them, joined to an emoji behind it. -/
  | tag (letters digits : Nat)
  /-- An Arabic alef. -/
  | alef
  /-- The second part of a sign for two letters, perhaps behind a joiner. -/
  | ligature (ending : LigatureEnd) (joined : Bool)
  /-- The Kirat Rai vowel e, which combines with vowels before it. -/
  | vowelE
  /-- The Kirat Rai vowel ai. -/
  | vowelAi
  deriving DecidableEq, Repr

/-- A character that selects the form of the character before it. -/
inductive Selector where
  | text
  | emoji
  | wide
  deriving DecidableEq, Repr

/-- The selector that a character is. -/
def Selector.ofChar? (c : Char) : Option Selector :=
  if c.toNat = 0xfe01 then some wide
  else if c.toNat = 0xfe0e then some text
  else if c.toNat = 0xfe0f then some emoji
  else none

/-- What stands behind a character: perhaps a selector, and what is behind that. -/
structure Context where
  follower : Follower := .other
  selector? : Option Selector := none
  deriving DecidableEq, Repr

namespace Follower

/-- What a character is to the one before it, whatever stands behind both. -/
def ofChar (c : Char) : Follower :=
  if isAlef c then alef
  else if isSubscribedKhmer c then ligature .khmer false
  else if isTifinagh c then ligature .tifinagh false
  else if isSecondLisuTone c then ligature .lisuTone false
  else if isRegionLetter c then region
  else if isSkinTone c then skinTone
  else if isEmoji c then emoji
  else match c.toNat with
    | 0x5dc => ligature .lamed false
    | 0x1a10 => ligature .ya false
    | 0x10c03 => ligature .oldTurkic false
    | 0x16d67 => vowelE
    | 0x16d68 => vowelAi
    | _ => other

/-- Whether this is a letter that may run together with the one before it. -/
def isLetter : Follower → Bool
  | alef | ligature .. => true
  | _ => false

/-- Whether this is a joiner before an emoji. -/
def isJoiner : Follower → Bool
  | joiner _ => true
  | _ => false

/-- What stands behind a character if a selector is added in front. Letters run together across a
selector, and emoji are joined across the selector of the emoji form. -/
def select (follower : Follower) (selector : Selector) : Context :=
  let kept := follower.isLetter || (follower.isJoiner && selector = .emoji)
  { follower := if kept then follower else other, selector? := some selector }

end Follower

/-- The columns that a character adds where it runs together with the second part of a sign for two
letters, and what the two are to the character before them. -/
def LigatureEnd.join? (ending : LigatureEnd) (joined : Bool) (c : Char) :
    Option (Int × Follower) :=
  match ending with
  | lamed => if joined && c.toNat = 0x5d0 then some (0, .other) else none
  | ya => if joined && c.toNat = 0x1a17 then some (0, .ligature .yaWithVowel true) else none
  | yaWithVowel => if c.toNat = 0x1a15 then some (0, .other) else none
  | tifinagh =>
    if c.toNat = 0x2d7f then some (1, .ligature .joinedTifinagh true)
    else if joined && isTifinagh c then some (0, .other)
    else none
  | joinedTifinagh => if isTifinagh c then some (-1, .other) else none
  | lisuTone => if isFirstLisuTone c then some (0, .other) else none
  | oldTurkic => if joined && c.toNat = 0x10c32 then some (0, .other) else none
  | khmer => if c.toNat = 0x17d2 then some (-1, .other) else none

namespace Follower

/-- The columns that a character adds where it combines with what stands behind it, and what both
are to the character before them. A tag belongs to a black flag if it has three to six letters, or
three digits before at most four letters. -/
def join? (follower : Follower) (c : Char) : Option (Int × Follower) :=
  match follower with
  | other => none
  | emoji => if c = Text.joiner then some (0, joiner false) else none
  | skinTone =>
    if isToneBase c then some (0, emoji)
    else if c = Text.joiner then some (0, joiner false)
    else none
  | region => if isRegionLetter c then some (1, regions) else none
  | regions =>
    if isRegionLetter c then some (1, regions)
    else if c = Text.joiner then some (0, joiner false)
    else none
  | joiner true => none
  | joiner false =>
    if c = keycap then some (0, joiner true)
    else if isRegionLetter c then some (1, joinedRegion)
    else if isSkinTone c then some (0, skinTone)
    else if c = tagEnd then some (0, tag 0 0)
    else if isEmoji c then some (0, emoji)
    else none
  | joinedRegion => if isRegionLetter c then some (-1, joinedRegions true) else none
  | joinedRegions even =>
    if isRegionLetter c then some (if even then 3 else -1, joinedRegions !even)
    else if c = Text.joiner then some (0, joiner false)
    else none
  | tag letters digits =>
    if isTagLetter c && digits = 0 && letters < 6 then some (0, tag (letters + 1) 0)
    else if isTagDigit c && (if digits = 0 then letters < 5 else digits < 3) then
      some (0, tag letters (digits + 1))
    else if c = blackFlag && ((digits = 0 && 3 ≤ letters) || digits = 3) then some (0, emoji)
    else none
  | alef =>
    if isLam c then some (0, other)
    else if isJoinTransparent c then some (0, alef)
    else none
  | ligature ending joined =>
    if isLigatureTransparent c then some (0, ligature ending (joined || c = Text.joiner))
    else ending.join? joined c
  | vowelE =>
    match c.toNat with
    | 0x16d63 | 0x16d69 => some (0, other)
    | 0x16d67 => some (0, vowelAi)
    | 0x16d68 => some (1, vowelE)
    | _ => none
  | vowelAi => if c.toNat = 0x16d63 then some (0, other) else none

/-- The columns that a character adds in front of what is no selector, and what stands behind the
character before it. -/
def step (follower : Follower) (c : Char) : Int × Context :=
  if c.toNat ≤ 0xa0 then (1, {})
  else match Selector.ofChar? c, follower.join? c with
    | some selector, _ => (0, follower.select selector)
    | none, some (columns, follower) => (columns, { follower })
    | none, none => (charWidth c, { follower := ofChar c })

end Follower

/-- The columns of a character in the form that a selector gives it, if it has this form. An emoji
that is joined to the one behind it adds none. -/
def Selector.columns? (selector : Selector) (follower : Follower) (c : Char) :
    Option (Int × Follower) :=
  match selector with
  | emoji => if hasEmojiForm c then some (if follower.isJoiner then 0 else 2, .emoji) else none
  | text => if hasNarrowTextForm c then some (1, .other) else none
  | wide => if isCurlyQuote c then some (2, .other) else none

/-- The columns that a character adds, and what stands behind the character before it. A selector
without effect separates all but letters. -/
def Context.step (context : Context) (c : Char) : Int × Context :=
  match context.selector? with
  | none => context.follower.step c
  | some selector =>
    match selector.columns? context.follower c with
    | some (columns, follower) => (columns, { follower })
    | none => Follower.step (if context.follower.isLetter then context.follower else .other) c

end GraphGateway.Text
