import Mathlib
import ShardedView.Partition.Murmur
import ShardedView.Proofs.Text.Blank
import ShardedView.Proofs.Topic.Key

/-!
Which texts stand for a key. A string stands for itself; a number may have blanks around it, a
sign, and zeros in front of its digits. However it is spelt, a key has one text that it is written
as and one byte string, and so one place in a log.
-/

namespace ShardedView

/-- A run of digits, zeros in front included, spells a number. -/
structure Digits.Spell (chars : List Char) (number : Nat) : Prop where
  nonempty : chars ≠ []
  digits : ∀ char ∈ chars, isDigit char = true
  value : valueFrom 0 chars = number

namespace Integer

/-- Digits spell an integer, behind a sign or without one. -/
inductive Spell : List Char → Int → Prop
  | unsigned {digits : List Char} {number : Nat} (spell : Digits.Spell digits number) :
    Spell digits number
  | plus {digits : List Char} {number : Nat} (spell : Digits.Spell digits number) :
    Spell ('+' :: digits) number
  | minus {digits : List Char} {number : Nat} (spell : Digits.Spell digits number) :
    Spell ('-' :: digits) (-number)

theorem Spell.nonempty {chars : List Char} {number : Int} (spell : Spell chars number) :
    chars ≠ [] := by
  cases spell with
  | unsigned spell => exact spell.nonempty
  | plus | minus => exact List.cons_ne_nil _ _

theorem Spell.solid {chars : List Char} {number : Int} (spell : Spell chars number) :
    ∀ char ∈ chars, Text.isBlank char = false := by
  have digits : ∀ {digits : List Char} {number : Nat}, Digits.Spell digits number →
      ∀ char ∈ digits, Text.isBlank char = false :=
    fun spell char member => Text.isBlank_of_isDigit (spell.digits char member)
  cases spell with
  | unsigned spell => exact digits spell
  | plus spell | minus spell => exact List.forall_mem_cons.2 ⟨rfl, digits spell⟩

theorem readMagnitude_eq_ok_iff_spell {bound number : Nat} {overflow : IntegerFault}
    {chars : List Char} :
    readMagnitude bound overflow chars = .ok number ↔
      Digits.Spell chars number ∧ number ≤ bound := by
  rw [readMagnitude_eq_ok_iff]
  exact ⟨fun ⟨nonempty, digits, value, within⟩ => ⟨⟨nonempty, digits, value⟩, within⟩,
    fun ⟨⟨nonempty, digits, value⟩, within⟩ => ⟨nonempty, digits, value, within⟩⟩

theorem map_eq_ok_iff {α β : Type} {read : Except IntegerFault α} {change : α → β} {result : β} :
    read.map change = .ok result ↔ ∃ value, read = .ok value ∧ change value = result := by
  cases read <;> simp [Except.map]

theorem read_eq_ok_iff {below above : Nat} (signed : below ≠ 0) {chars : List Char} {number : Int} :
    read below above chars = .ok number ↔
      Spell chars number ∧ -(below : Int) ≤ number ∧ number ≤ above := by
  unfold read
  split
  · exact ⟨nofun, fun spelt => absurd rfl spelt.1.nonempty⟩
  · next rest =>
    rw [map_eq_ok_iff]
    constructor
    · rintro ⟨value, read, rfl⟩
      obtain ⟨spell, within⟩ := readMagnitude_eq_ok_iff_spell.1 read
      exact ⟨.plus spell, by simp, by simpa using within⟩
    · rintro ⟨spell, least, greatest⟩
      cases spell with
      | unsigned spell => exact absurd (spell.digits '+' (.head _)) (by decide)
      | plus spell =>
        exact ⟨_, readMagnitude_eq_ok_iff_spell.2 ⟨spell, Int.ofNat_le.1 greatest⟩, rfl⟩
  · next rest =>
    have opposite : ∀ read : Except IntegerFault Nat,
        (Except.map (fun value => -value) (read >>= fun value => pure (value : Int))) =
          read.map fun value : Nat => -(value : Int) := fun read => by cases read <;> rfl
    rw [if_neg signed, opposite, map_eq_ok_iff]
    constructor
    · rintro ⟨value, read, rfl⟩
      obtain ⟨spell, within⟩ := readMagnitude_eq_ok_iff_spell.1 read
      exact ⟨.minus spell, by omega, by omega⟩
    · rintro ⟨spell, least, greatest⟩
      cases spell with
      | unsigned spell => exact absurd (spell.digits '-' (.head _)) (by decide)
      | minus spell => exact ⟨_, readMagnitude_eq_ok_iff_spell.2 ⟨spell, by omega⟩, rfl⟩
  · next noPlus noMinus =>
    rw [map_eq_ok_iff]
    constructor
    · rintro ⟨value, read, rfl⟩
      obtain ⟨spell, within⟩ := readMagnitude_eq_ok_iff_spell.1 read
      exact ⟨.unsigned spell, by simp, by simpa using within⟩
    · rintro ⟨spell, least, greatest⟩
      cases spell with
      | unsigned spell =>
        exact ⟨_, readMagnitude_eq_ok_iff_spell.2 ⟨spell, Int.ofNat_le.1 greatest⟩, rfl⟩
      | plus spell => exact absurd rfl (noPlus _)
      | minus spell => exact absurd rfl (noMinus _)

theorem map_read_eq_ok_iff {α : Type} {below above : Nat} (signed : below ≠ 0)
    {make : Int → α} {value : α → Int} (restored : ∀ item, make (value item) = item)
    (within : ∀ item, -(below : Int) ≤ value item ∧ value item ≤ above)
    (kept : ∀ number, -(below : Int) ≤ number → number ≤ above → value (make number) = number)
    {chars : List Char} {item : α} :
    (read below above chars).map make = .ok item ↔ Spell chars (value item) := by
  rw [map_eq_ok_iff]
  constructor
  · rintro ⟨number, read, rfl⟩
    obtain ⟨spell, least, greatest⟩ := (read_eq_ok_iff signed).1 read
    rwa [kept number least greatest]
  · intro spell
    exact ⟨_, (read_eq_ok_iff signed).2 ⟨spell, within item⟩, restored item⟩

theorem read32_eq_ok_iff {text : String} {number : Int32} :
    read32 text = .ok number ↔ Spell text.toList number.toInt := by
  refine map_read_eq_ok_iff (by decide) Int32.ofInt_toInt (fun number => ?_) fun number => ?_
  · have least := number.le_toInt
    have greatest := number.toInt_lt
    omega
  · intro least greatest
    exact Int32.toInt_ofInt_of_le (by omega) (by omega)

theorem read64_eq_ok_iff {text : String} {number : Int64} :
    read64 text = .ok number ↔ Spell text.toList number.toInt := by
  refine map_read_eq_ok_iff (by decide) Int64.ofInt_toInt (fun number => ?_) fun number => ?_
  · have least := number.le_toInt
    have greatest := number.toInt_lt
    omega
  · intro least greatest
    exact Int64.toInt_ofInt_of_le (by omega) (by omega)

/-- A text spells an integer, with blanks around it or without. -/
def IsSpelling (text : String) (number : Int) : Prop :=
  ∃ front digits back, text.toList = front ++ digits ++ back ∧
    (∀ char ∈ front ++ back, Text.isBlank char = true) ∧ Spell digits number

theorem spell_trim_iff {text : String} {number : Int} :
    Spell (Text.trim text).toList number ↔ IsSpelling text number := by
  rw [Text.trim, String.toList_ofList]
  constructor
  · intro spell
    obtain ⟨front, back, whole, blank⟩ := Text.exists_blanks text.toList
    exact ⟨front, _, back, whole, blank, spell⟩
  · rintro ⟨front, digits, back, whole, blank, spell⟩
    rwa [whole, Text.trimChars_append blank spell.nonempty spell.solid]

end Integer

namespace KeyType

/-- A text stands for a key: a string for itself, any spelling of a number for the number. -/
def Denotes : (type : KeyType) → String → type.Key → Prop
  | string, text, key => text = key
  | integer, text, key => Integer.IsSpelling text (Int32.toInt key)
  | long, text, key => Integer.IsSpelling text (Int64.toInt key)

theorem ofText_eq_ok_iff {type : KeyType} {text : String} {key : type.Key} :
    type.ofText text = .ok key ↔ type.Denotes text key := by
  have number : ∀ {α : Type} {read : Except IntegerFault α} {fail : IntegerFault → Failure}
      {item : α}, read.mapError fail = .ok item ↔ read = .ok item := by
    intro α read fail item
    cases read <;> simp [Except.mapError]
  cases type with
  | string => exact ⟨Except.ok.inj, congrArg Except.ok⟩
  | integer => exact number.trans (Integer.read32_eq_ok_iff.trans Integer.spell_trim_iff)
  | long => exact number.trans (Integer.read64_eq_ok_iff.trans Integer.spell_trim_iff)

/-- A key is decoded from the bytes that it is encoded as, and from no others. -/
theorem decode_eq_ok_iff {type : KeyType} {bytes : Bytes} {key : type.Key} :
    type.decode bytes = .ok key ↔ bytes = type.encode key :=
  ⟨fun decoded => (encode_of_decode decoded).symm, fun same => same ▸ type.decode_encode key⟩

/-- Keys are faithful in both forms. A key has one byte string and no other that is decoded to it;
its text is read as the key, so that keys stored under distinct bytes have distinct texts; and
whatever a text that is read is spelt like, the text of its key leads to the same bytes and to the
same partition. -/
theorem keys_are_faithful (type : KeyType) :
    (∀ (bytes : Bytes) (key : type.Key),
      type.decode bytes = .ok key ↔ bytes = type.encode key) ∧
    (∀ key : type.Key, type.ofText (type.toText key) = .ok key) ∧
    (∀ (left right : Bytes) (leftKey rightKey : type.Key), type.decode left = .ok leftKey →
      type.decode right = .ok rightKey → left ≠ right →
        type.toText leftKey ≠ type.toText rightKey) ∧
    ∀ (text : String) (key : type.Key),
      (type.ofText text = .ok key ↔ type.Denotes text key) ∧
      (type.ofText text = .ok key →
        (type.ofText (type.toText key)).map type.encode = (type.ofText text).map type.encode ∧
        ∀ count, (type.ofText (type.toText key)).map (fun key =>
            Murmur.partition (type.encode key) count) =
          (type.ofText text).map fun key => Murmur.partition (type.encode key) count) := by
  refine ⟨fun bytes key => decode_eq_ok_iff, type.ofText_toText, ?_, fun text key => ?_⟩
  · intro left right leftKey rightKey leftDecoded rightDecoded distinct same
    obtain rfl := toText_injective same
    exact distinct ((decode_eq_ok_iff.1 leftDecoded).trans (decode_eq_ok_iff.1 rightDecoded).symm)
  · refine ⟨ofText_eq_ok_iff, fun read => ?_⟩
    rw [read, type.ofText_toText]
    exact ⟨rfl, fun count => rfl⟩

/-- A number with blanks around it, a sign and zeros in front. -/
theorem keys_are_faithful_spelt :
    let text := "\u3000-0042 "
    let positive : integer.Key := (42 : Int32)
    let negative : integer.Key := (-42 : Int32)
    integer.decode [0, 0, 0, 0x2A] = .ok positive ∧
      integer.decode [0xFF, 0xFF, 0xFF, 0xD6] = .ok negative ∧
      integer.toText positive ≠ integer.toText negative ∧
      integer.ofText text = .ok negative ∧ integer.Denotes text negative ∧
      (integer.ofText (integer.toText negative)).map integer.encode =
        (integer.ofText text).map integer.encode := by
  intro text positive negative
  obtain ⟨-, -, distinct, spelt⟩ := integer.keys_are_faithful
  have left : integer.decode [0, 0, 0, 0x2A] = .ok positive := rfl
  have right : integer.decode [0xFF, 0xFF, 0xFF, 0xD6] = .ok negative := rfl
  have read : integer.ofText text = .ok negative := by cbv
  obtain ⟨denotes, same⟩ := spelt text negative
  exact ⟨left, right, distinct _ _ _ _ left right (by decide), read, denotes.1 read,
    (same read).1⟩

end KeyType

end ShardedView
