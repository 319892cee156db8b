import PyConduit.Conversations
import PyConduit.Pattern
import PyConduit.RoomMembership

/-!
# Mentions of our nick

`_mentions` looks for `@` and the nick with a word boundary behind it. Behind a nick
that ends in a word character the boundary asks for anything but a word character;
behind any other nick it asks for a word character. Letter case, letters and digits
are those of ASCII.
-/

namespace PyConduit.Mentions

open Protocol Replay
open Conversations (MessageStanza)
open Pattern (Item Agrees wordAt)
open RoomMembership (isOwnNick)

set_option autoImplicit false

def isWordChar (char : Char) : Bool := char.isAlphanum || char = '_'

/-- How `re.IGNORECASE` compares two characters. -/
def sameIgnoringCase (first second : Char) : Bool := first.toLower = second.toLower

/-- `re.search(pattern, text, re.IGNORECASE) is not None` -/
def searchIgnoringCase (pattern text : List Char) : Option Bool :=
  (Pattern.read pattern).map fun items => Pattern.search sameIgnoringCase isWordChar items text

/-- `rf"@{re.escape(nick)}\b"` -/
def mentionPattern (nick : String) : List Char :=
  '@' :: (Pattern.escape nick.toList ++ ['\\', 'b'])

def mentions (nick : Option String) (body : String) : Bool :=
  match nick with
  | none => false
  | some nick =>
      if nick = "" then false
      else searchIgnoringCase (mentionPattern nick) body.toList = some true

/-- `_mentions` of the nick we have in a room; `re.escape` takes nothing but text. -/
def mentionsOurNick (ourNick : Option Json) (body : String) : Option Bool :=
  match ourNick with
  | none => some false
  | some (.str nick) => some (mentions (some nick) body)
  | some other => if other.truthy then none else some false

/-- `_on_groupchat_message`, with the event it hands to the account. -/
def onGroupchatMessage (joinedRooms : Dict String Json) (newId now : String)
    (stanza : MessageStanza) : Option Event :=
  let ourNick := joinedRooms.lookup stanza.sender.bare
  if stanza.body = "" then none
  else
    let isSelf := isOwnNick stanza.sender.resource ourNick
    (if isSelf then some false else mentionsOurNick ourNick stanza.body).map fun mentionsMe =>
      .mucMessage stanza.sender.bare stanza.sender.resource stanza.body
        (if stanza.id = "" then newId else stanza.id) now isSelf mentionsMe

def Occurs (nick body : String) (followed : Bool) : Prop :=
  ∃ front found rest, body.toList = front ++ '@' :: (found ++ rest) ∧
    found.map Char.toLower = nick.toList.map Char.toLower ∧
    wordAt isWordChar rest.head? = followed

/-- `@` and the nick stand in the body at a place where no word character follows. -/
def Mentioned (nick body : String) : Prop :=
  ∃ front found rest, body.toList = front ++ '@' :: (found ++ rest) ∧
    found.map Char.toLower = nick.toList.map Char.toLower ∧
    ∀ next, rest.head? = some next → isWordChar next = false

def EndsInWord (nick : String) : Prop := wordAt isWordChar nick.toList.getLast? = true

instance (nick : String) : Decidable (EndsInWord nick) :=
  inferInstanceAs (Decidable (wordAt isWordChar nick.toList.getLast? = true))

theorem mentioned_iff (nick body : String) : Mentioned nick body ↔ Occurs nick body false := by
  unfold Mentioned Occurs
  have unfollowed : ∀ rest : List Char, (∀ next, rest.head? = some next → isWordChar next = false) ↔
      wordAt isWordChar rest.head? = false := by
    intro rest
    cases rest with
    | nil => simp [wordAt]
    | cons next rest => simp [wordAt]
  simp only [unfollowed]

section Characters

theorem to_lower_other {char : Char} (other : char.isUpper = false) : char.toLower = char := by
  have outside : ¬('A'.val ≤ char.val ∧ char.val ≤ 'Z'.val) := of_decide_eq_false other
  exact dif_neg outside

theorem to_lower_upper {char : Char} (upper : char.isUpper = true) :
    char.toLower.isLower = true := by
  have inside : 'A'.val ≤ char.val ∧ char.val ≤ 'Z'.val := of_decide_eq_true upper
  have range : 65 ≤ char.val.toNat ∧ char.val.toNat ≤ 90 :=
    ⟨UInt32.le_iff_toNat_le.mp inside.1, UInt32.le_iff_toNat_le.mp inside.2⟩
  have lowered : char.toLower.val = char.val + ('a'.val - 'A'.val) :=
    congrArg Char.val (dif_pos inside)
  have shifted : char.toLower.val.toNat = (char.val.toNat + 32) % 2 ^ 32 := by
    rw [lowered, UInt32.toNat_add]
    rfl
  have bounds : 97 ≤ char.toLower.val.toNat ∧ char.toLower.val.toNat ≤ 122 := by omega
  exact Bool.and_eq_true_iff.mpr
    ⟨decide_eq_true (UInt32.le_iff_toNat_le.mpr bounds.1),
      decide_eq_true (UInt32.le_iff_toNat_le.mpr bounds.2)⟩

theorem word_char_of_letter {char : Char} (letter : char.isUpper = true ∨ char.isLower = true) :
    isWordChar char = true := by
  change ((char.isUpper || char.isLower) || char.isDigit || _) = true
  rw [Bool.or_eq_true_iff.mpr letter]
  rfl

theorem word_char_to_lower (char : Char) : isWordChar char.toLower = isWordChar char := by
  cases upper : char.isUpper with
  | true =>
      rw [word_char_of_letter (Or.inl upper), word_char_of_letter (Or.inr (to_lower_upper upper))]
  | false => rw [to_lower_other upper]

theorem same_at_iff (char : Char) : sameIgnoringCase '@' char = true ↔ char = '@' := by
  have unchanged : ('@').toLower = '@' := by decide
  rw [sameIgnoringCase, decide_eq_true_iff, unchanged]
  constructor
  · intro same
    cases upper : char.isUpper with
    | true =>
        have lower := to_lower_upper upper
        rw [← same] at lower
        exact absurd lower (by decide)
    | false => rw [same, to_lower_other upper]
  · rintro rfl
    exact unchanged.symm

theorem agrees_iff (literal found : List Char) :
    Agrees sameIgnoringCase literal found ↔
      found.map Char.toLower = literal.map Char.toLower := by
  unfold Agrees
  rw [eq_comm, ← List.forall₂_eq_eq_eq, List.forall₂_map_left_iff, List.forall₂_map_right_iff]
  simp only [sameIgnoringCase, decide_eq_true_iff]

theorem word_at_last {literal found : List Char}
    (agrees : found.map Char.toLower = literal.map Char.toLower) :
    wordAt isWordChar found.getLast? = wordAt isWordChar literal.getLast? := by
  have lowered : ∀ text : List Char,
      wordAt isWordChar text.getLast? = wordAt isWordChar (text.map Char.toLower).getLast? := by
    intro text
    rw [List.getLast?_map]
    cases text.getLast? with
    | none => rfl
    | some last => exact (word_char_to_lower last).symm
  rw [lowered found, agrees, ← lowered literal]

end Characters

theorem mention_pattern_reads (nick : String) :
    Pattern.read (mentionPattern nick) =
      some (('@' :: nick.toList).map .char ++ [.boundary]) := by
  have plain : '@' ∉ Pattern.metacharacters := by decide
  rw [mentionPattern, Pattern.read_plain plain, Pattern.read_escape]
  rfl

/-- A nick is found where what follows it is of a word if and only if the nick does not
end in one. -/
theorem mentions_iff (nick body : String) (nonempty : nick ≠ "") :
    mentions (some nick) body = true ↔
      Occurs nick body (!wordAt isWordChar nick.toList.getLast?) := by
  have some_iff : mentions (some nick) body = true ↔
      Pattern.search sameIgnoringCase isWordChar
        (('@' :: nick.toList).map .char ++ [.boundary]) body.toList = true := by
    simp [mentions, nonempty, searchIgnoringCase, mention_pattern_reads]
  have filled : nick.toList ≠ [] := by simpa using nonempty
  have lastOf : ∀ (before : Option Char) (found : List Char),
      found.map Char.toLower = nick.toList.map Char.toLower →
      wordAt isWordChar (('@' :: found).getLast?.or before) =
        wordAt isWordChar nick.toList.getLast? := by
    intro before found alike
    rw [← word_at_last alike, List.getLast?_cons]
    cases last : found.getLast? with
    | some char => rfl
    | none =>
        rw [List.getLast?_eq_none_iff.mp last] at alike
        exact absurd (List.map_eq_nil_iff.mp alike.symm) filled
  rw [some_iff, Pattern.search_literal_iff]
  constructor
  · rintro ⟨front, found, rest, split, agrees, differs⟩
    cases agrees with
    | @cons _ first _ found here agrees =>
        obtain rfl := (same_at_iff first).mp here
        have alike := (agrees_iff _ _).mp agrees
        rw [lastOf _ _ alike] at differs
        exact ⟨front, found, rest, split, alike, Bool.eq_not.mpr differs.symm⟩
  · rintro ⟨front, found, rest, split, alike, followed⟩
    refine ⟨front, '@' :: found, rest, split, .cons ((same_at_iff '@').mpr rfl)
      ((agrees_iff _ _).mpr alike), ?_⟩
    rw [lastOf _ _ alike, followed]
    exact (Bool.not_ne_self _).symm

/-- `_mentions` is exact for a nick that ends in a word character, and for any other
nick where `@` and the nick stand both before a word character and before none, or
nowhere. -/
theorem mentions_exact_iff (nick body : String) (nonempty : nick ≠ "") :
    (mentions (some nick) body = true ↔ Mentioned nick body) ↔
      (EndsInWord nick ∨ (Occurs nick body true ↔ Occurs nick body false)) := by
  rw [mentions_iff nick body nonempty, mentioned_iff, EndsInWord]
  cases wordAt isWordChar nick.toList.getLast? with
  | true => simp
  | false => simp

theorem alice_is_mentioned :
    mentions (some "Alice") "ping @alice: hi" = true ↔ Mentioned "Alice" "ping @alice: hi" :=
  (mentions_exact_iff "Alice" "ping @alice: hi" (by decide)).mpr (Or.inl (by decide))

theorem punctuated_nick_is_not_mentioned :
    mentions (some "bob!") "@bob! hi" = false ∧ Mentioned "bob!" "@bob! hi" := by
  refine ⟨by decide +kernel, [], "bob!".toList, " hi".toList, by decide, rfl, ?_⟩
  intro next first
  cases first
  decide

theorem mention_flag {joinedRooms : Dict String Json} {newId now : String}
    {stanza : MessageStanza} {nick : String}
    (inside : joinedRooms.lookup stanza.sender.bare = some (.str nick)) (spoken : stanza.body ≠ "") :
    onGroupchatMessage joinedRooms newId now stanza =
      some (.mucMessage stanza.sender.bare stanza.sender.resource stanza.body
        (if stanza.id = "" then newId else stanza.id) now (stanza.sender.resource = nick)
        (stanza.sender.resource ≠ nick ∧ mentions (some nick) stanza.body = true)) := by
  unfold onGroupchatMessage
  rw [inside, if_neg spoken]
  by_cases own : stanza.sender.resource = nick
  · simp [isOwnNick, own]
  · simp [isOwnNick, own, mentionsOurNick]

end PyConduit.Mentions
