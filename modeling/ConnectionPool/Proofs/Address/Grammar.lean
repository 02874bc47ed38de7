import Mathlib.Data.List.Basic
import ConnectionPool.Proofs.Address.Ip
import ConnectionPool.Proofs.Text.Digits

/-!
Contract: which texts are internet addresses, and which addresses they are.

Owns:
- `Ipv4.Denotes` and `Ipv6.Denotes`, the grammars of the two kinds of addresses;
- `Ipv4.read?_eq_some_iff` and `Ipv6.read?_eq_some_iff`: exactly the texts of the grammar are read, as the
  addresses that they denote.

Does not own: scopes, service numbers and brackets.
-/

namespace ConnectionPool

open Text

theorem digitValue?_of_separator {char : Char} (separates : char ∈ ['.', ':', '%', ']', '[', '/'])
    (base : Nat) : Numeral.digitValue? base char = none := by
  simp only [List.mem_cons, List.not_mem_nil, or_false] at separates
  rcases separates with rfl | rfl | rfl | rfl | rfl | rfl <;> simp [Numeral.digitValue?]

namespace Ipv4

/-- An octet is a decimal numeral without a leading zero. -/
structure Octet (text : List Char) (octet : UInt8) : Prop where
  denotes : Numeral.Denotes 10 text octet.toNat
  no_leading_zero : text.head? = some '0' → text = ['0']

/-- An address is four octets with dots between them. -/
inductive Denotes : List Char → Ipv4 → Prop where
  | dotted {first second third fourth : List Char} {address : Ipv4}
      (isFirst : Octet first address.first) (isSecond : Octet second address.second)
      (isThird : Octet third address.third) (isFourth : Octet fourth address.fourth) :
      Denotes (first ++ '.' :: second ++ '.' :: third ++ '.' :: fourth) address

section

variable {text : List Char} {octet : UInt8} {address : Ipv4} {char : Char}

/-- An octet has at most three digits, since a longer numeral without a leading zero is too large. -/
theorem Octet.length_le (isOctet : Octet text octet) : text.length ≤ 3 := by
  by_cases isZero : text.head? = some '0'
  · rw [isOctet.no_leading_zero isZero]
    decide
  · have large := isOctet.denotes.le_of_head?_ne_zero isZero
    have small : octet.toNat < 256 := octet.toNat_lt
    apply Nat.le_of_not_lt
    intro long
    have fourDigits : 10 ^ 3 ≤ 10 ^ (text.length - 1) := Nat.pow_le_pow_right (by decide) (by omega)
    omega

theorem octet?_eq_some_iff : octet? text = some octet ↔ Octet text octet := by
  constructor
  · intro isOctet
    unfold octet? at isOctet
    split_ifs at isOctet with plain
    split at isOctet
    · next value isValue =>
        split_ifs at isOctet with small
        obtain rfl := Option.some.inj isOctet
        refine ⟨?_, fun isZero => ?_⟩
        · rw [UInt8.toNat_ofNat_of_lt' small]
          exact (Numeral.value?_eq_some_iff (by decide)).1 isValue
        · obtain single | differs := plain.2
          · obtain ⟨only, rfl⟩ := List.length_eq_one_iff.1 single
            rw [Option.some.inj isZero]
          · exact absurd isZero differs
    · cases isOctet
  · intro isOctet
    have plain : text.length = 1 ∨ text.head? ≠ some '0' := by
      by_cases isZero : text.head? = some '0'
      · exact .inl (by rw [isOctet.no_leading_zero isZero]; rfl)
      · exact .inr isZero
    have value : Numeral.value? 10 text = some octet.toNat :=
      (Numeral.value?_eq_some_iff (by decide)).2 isOctet.denotes
    have small : octet.toNat < 256 := octet.toNat_lt
    simp [octet?, isOctet.length_le, plain, value, small]

theorem Octet.not_mem (isOctet : Octet text octet) (separates : char ∈ ['.', ':', '%', ']', '[', '/']) :
    char ∉ text :=
  isOctet.denotes.not_mem (by decide) (digitValue?_of_separator separates 10)

/-- Exactly the addresses of the grammar are read. -/
theorem read?_eq_some_iff : read? text = some address ↔ Denotes text address := by
  constructor
  · intro isRead
    unfold read? at isRead
    split at isRead
    · next first second third fourth isSplit =>
        obtain ⟨one, isFirst, isRead⟩ := Option.bind_eq_some_iff.1 isRead
        obtain ⟨two, isSecond, isRead⟩ := Option.bind_eq_some_iff.1 isRead
        obtain ⟨three, isThird, isRead⟩ := Option.bind_eq_some_iff.1 isRead
        obtain ⟨four, isFourth, isRead⟩ := Option.bind_eq_some_iff.1 isRead
        obtain rfl := Option.some.inj isRead
        have isText : text = first ++ '.' :: second ++ '.' :: third ++ '.' :: fourth := by
          simpa [joined] using (fields_eq_iff.1 isSplit).2.2
        rw [isText]
        exact .dotted (octet?_eq_some_iff.1 isFirst) (octet?_eq_some_iff.1 isSecond)
          (octet?_eq_some_iff.1 isThird) (octet?_eq_some_iff.1 isFourth)
    · cases isRead
  · rintro ⟨isFirst, isSecond, isThird, isFourth⟩
    next first second third fourth =>
      have isSplit : fields '.' (first ++ '.' :: second ++ '.' :: third ++ '.' :: fourth) =
          [first, second, third, fourth] := by
        refine fields_eq_iff.2 ⟨by simp, ?_, by simp [joined]⟩
        simp only [List.forall_mem_cons]
        exact ⟨isFirst.not_mem (by decide), isSecond.not_mem (by decide), isThird.not_mem (by decide),
          isFourth.not_mem (by decide), List.forall_mem_nil _⟩
      rw [read?, isSplit]
      simp [octet?_eq_some_iff.2 isFirst, octet?_eq_some_iff.2 isSecond,
        octet?_eq_some_iff.2 isThird, octet?_eq_some_iff.2 isFourth]

/-- Behind the first octet of an address stands a dot. -/
theorem Denotes.mem_dot (denotes : Denotes text address) : '.' ∈ text := by
  cases denotes
  simp

theorem Denotes.not_mem (denotes : Denotes text address) (separates : char ∈ [':', '%', ']', '[', '/']) :
    char ∉ text := by
  have differs : char ≠ '.' := by
    rintro rfl
    exact absurd separates (by decide)
  have separatesToo : char ∈ ['.', ':', '%', ']', '[', '/'] := List.mem_cons_of_mem _ separates
  obtain ⟨isFirst, isSecond, isThird, isFourth⟩ := denotes
  simp [differs, isFirst.not_mem separatesToo, isSecond.not_mem separatesToo,
    isThird.not_mem separatesToo, isFourth.not_mem separatesToo]

end

end Ipv4

namespace Ipv6

/-- A group is one to four hexadecimal digits. -/
structure Group (text : List Char) (group : UInt16) : Prop where
  denotes : Numeral.Denotes 16 text group.toNat
  length_le : text.length ≤ 4

/-- Groups with colons between them. Where a dotted tail is allowed, the last two may be an IPv4 address. -/
inductive Groups (dottedTail : Bool) : List Char → List UInt16 → Prop where
  | last {text : List Char} {group : UInt16} (isGroup : Group text group) : Groups dottedTail text [group]
  | dotted {text : List Char} {address : Ipv4} (allowed : dottedTail = true)
      (denotes : Ipv4.Denotes text address) : Groups dottedTail text address.groups
  | more {text rest : List Char} {group : UInt16} {groups : List UInt16} (isGroup : Group text group)
      (areGroups : Groups dottedTail rest groups) : Groups dottedTail (text ++ ':' :: rest) (group :: groups)

/-- What stands on one side of a double colon: groups, or nothing. -/
inductive Side (dottedTail : Bool) : List Char → List UInt16 → Prop where
  | empty : Side dottedTail [] []
  | groups {text : List Char} {groups : List UInt16} (areGroups : Groups dottedTail text groups) :
      Side dottedTail text groups

/-- An address is eight groups, or fewer groups and one double colon that stands for the missing groups, all
of them zero. -/
inductive Denotes : List Char → Ipv6 → Prop where
  | whole {text : List Char} {address : Ipv6} (areGroups : Groups true text address.groups) :
      Denotes text address
  | shortened {front back : List Char} {before after : List UInt16} {zeros : Nat} {address : Ipv6}
      (isFront : Side false front before) (isBack : Side true back after) (some_zero : 0 < zeros)
      (all : address.groups = before ++ List.replicate zeros 0 ++ after) :
      Denotes (front ++ ':' :: ':' :: back) address

section

variable {text : List Char} {group : UInt16} {groups : List UInt16} {address : Ipv6} {char : Char}
  {dottedTail : Bool}

theorem group?_eq_some_iff : group? text = some group ↔ Group text group := by
  constructor
  · intro isGroup
    unfold group? at isGroup
    split_ifs at isGroup with short
    obtain ⟨value, isValue, rfl⟩ := Option.map_eq_some_iff.1 isGroup
    have denotes := (Numeral.value?_eq_some_iff (by decide)).1 isValue
    have small : value < 65536 := calc
      value < 16 ^ text.length := denotes.lt_pow_length
      _ ≤ 16 ^ 4 := Nat.pow_le_pow_right (by decide) short
    refine ⟨?_, short⟩
    rwa [UInt16.toNat_ofNat_of_lt' small]
  · rintro ⟨denotes, short⟩
    have value : Numeral.value? 16 text = some group.toNat := (Numeral.value?_eq_some_iff (by decide)).2 denotes
    simp [group?, short, value]

theorem Group.not_mem (isGroup : Group text group) (separates : char ∈ ['.', ':', '%', ']', '[', '/']) :
    char ∉ text :=
  isGroup.denotes.not_mem (by decide) (digitValue?_of_separator separates 16)

/-- A dotted address is no group. -/
theorem group?_of_dotted {inner : Ipv4} (denotes : Ipv4.Denotes text inner) : group? text = none := by
  apply Option.eq_none_iff_forall_ne_some.2
  intro group isGroup
  exact (group?_eq_some_iff.1 isGroup).not_mem (by decide) denotes.mem_dot

/-- Parts without colons stand for the groups of the text they are joined to. -/
theorem groups_of_partGroups? {parts : List (List Char)} (nonempty : parts ≠ [])
    (areGroups : partGroups? dottedTail parts = some groups) : Groups dottedTail (joined ':' parts) groups := by
  induction parts generalizing groups with
  | nil => exact absurd rfl nonempty
  | cons part parts inductionHypothesis =>
      cases parts with
      | nil =>
          unfold partGroups? at areGroups
          split at areGroups
          · next group isGroup =>
              obtain rfl := Option.some.inj areGroups
              exact .last (group?_eq_some_iff.1 isGroup)
          · split_ifs at areGroups with allowed
            obtain ⟨inner, isInner, rfl⟩ := Option.map_eq_some_iff.1 areGroups
            exact .dotted allowed (Ipv4.read?_eq_some_iff.1 isInner)
      | cons next parts =>
          obtain ⟨group, isGroup, areGroups⟩ := Option.bind_eq_some_iff.1 areGroups
          obtain ⟨rest, areRest, isAll⟩ := Option.bind_eq_some_iff.1 areGroups
          obtain rfl := Option.some.inj isAll
          exact .more (group?_eq_some_iff.1 isGroup) (inductionHypothesis (by simp) areRest)

theorem Groups.partGroups? (areGroups : Groups dottedTail text groups) :
    partGroups? dottedTail (fields ':' text) = some groups := by
  induction areGroups with
  | last isGroup =>
      rw [fields_of_not_mem (isGroup.not_mem (by decide))]
      simp [Ipv6.partGroups?, group?_eq_some_iff.2 isGroup]
  | dotted allowed denotes =>
      rw [fields_of_not_mem (denotes.not_mem (by decide))]
      simp [Ipv6.partGroups?, group?_of_dotted denotes, Ipv4.read?_eq_some_iff.2 denotes, allowed]
  | @more text rest group groups isGroup areGroups inductionHypothesis =>
      rw [fields_append_separator (isGroup.not_mem (by decide))]
      cases areFields : fields ':' rest with
      | nil => exact absurd areFields (fields_ne_nil ':' rest)
      | cons next parts =>
          rw [areFields] at inductionHypothesis
          simp [Ipv6.partGroups?, group?_eq_some_iff.2 isGroup, inductionHypothesis]

theorem Groups.ne_nil (areGroups : Groups dottedTail text groups) : text ≠ [] := by
  cases areGroups with
  | last isGroup => exact isGroup.denotes.ne_nil
  | dotted allowed denotes => exact List.ne_nil_of_mem denotes.mem_dot
  | more isGroup areGroups => simp

theorem sideGroups?_eq_some_iff :
    sideGroups? dottedTail text = some groups ↔ Side dottedTail text groups := by
  constructor
  · intro isSide
    unfold sideGroups? at isSide
    split_ifs at isSide with isEmpty
    · obtain rfl := List.isEmpty_iff.1 isEmpty
      obtain rfl := Option.some.inj isSide
      exact .empty
    · have areGroups := groups_of_partGroups? (fields_ne_nil ':' text) isSide
      rw [joined_fields] at areGroups
      exact .groups areGroups
  · intro isSide
    cases isSide with
    | empty => rfl
    | groups areGroups =>
        have shown : text.isEmpty = false := by simpa using areGroups.ne_nil
        simp [sideGroups?, shown, areGroups.partGroups?]

theorem Groups.head?_ne_colon (areGroups : Groups dottedTail text groups) : text.head? ≠ some ':' := by
  have of_free {part : List Char} (free : ':' ∉ part) : part.head? ≠ some ':' :=
    fun isColon => free (List.mem_of_mem_head? isColon)
  cases areGroups with
  | last isGroup => exact of_free (isGroup.not_mem (by decide))
  | dotted allowed denotes => exact of_free (denotes.not_mem (by decide))
  | more isGroup areGroups =>
      rw [List.head?_append_of_ne_nil _ isGroup.denotes.ne_nil]
      exact of_free (isGroup.not_mem (by decide))

/-- No part of the groups is empty, so that no colon is doubled in them: a cut at a doubled colon is made
behind them. -/
theorem Groups.cut?_append (areGroups : Groups dottedTail text groups) (behind : List Char) :
    cut? [':', ':'] (text ++ behind) =
      (cut? [':', ':'] behind).map fun sides => (text ++ sides.1, sides.2) := by
  induction areGroups with
  | last isGroup => exact cut?_append_of_not_mem (isGroup.not_mem (by decide)) behind
  | dotted allowed denotes => exact cut?_append_of_not_mem (denotes.not_mem (by decide)) behind
  | @more text rest group groups isGroup areGroups inductionHypothesis =>
      have noColon : (rest ++ behind).head? ≠ some ':' := by
        rw [List.head?_append_of_ne_nil _ areGroups.ne_nil]
        exact areGroups.head?_ne_colon
      rw [List.append_assoc, cut?_append_of_not_mem (isGroup.not_mem (by decide)), List.cons_append,
        cut?_double_separator noColon, inductionHypothesis]
      simp [Option.map_map, Function.comp_def]

theorem Groups.cut?_eq_none (areGroups : Groups dottedTail text groups) : cut? [':', ':'] text = none := by
  have atEnd := areGroups.cut?_append []
  rwa [List.append_nil] at atEnd

theorem Side.cut?_double_colon (isSide : Side dottedTail text groups) (back : List Char) :
    cut? [':', ':'] (text ++ ':' :: ':' :: back) = some (text, back) := by
  have here : cut? [':', ':'] (':' :: ':' :: back) = some ([], back) := cut?_separator back
  cases isSide with
  | empty => exact here
  | groups areGroups =>
      rw [areGroups.cut?_append, here]
      simp

theorem ofGroups?_eq_some_iff : ofGroups? groups = some address ↔ address.groups = groups := by
  unfold ofGroups?
  constructor
  · intro isAddress
    split_ifs at isAddress with eightGroups
    rw [← Option.some.inj isAddress]
  · rintro rfl
    rw [dif_pos address.eight_groups]

/-- Exactly the addresses of the grammar are read. -/
theorem read?_eq_some_iff : read? text = some address ↔ Denotes text address := by
  constructor
  · intro isRead
    unfold read? at isRead
    split at isRead
    · obtain ⟨groups, isSide, isAddress⟩ := Option.bind_eq_some_iff.1 isRead
      have all := ofGroups?_eq_some_iff.1 isAddress
      cases sideGroups?_eq_some_iff.1 isSide with
      | empty => exact absurd address.eight_groups (by simp [all])
      | groups areGroups => exact .whole (all ▸ areGroups)
    · next front back isCut =>
        obtain ⟨before, isFront, isRead⟩ := Option.bind_eq_some_iff.1 isRead
        obtain ⟨after, isBack, isRead⟩ := Option.bind_eq_some_iff.1 isRead
        dsimp only at isRead
        split_ifs at isRead with short
        have isText : text = front ++ ':' :: ':' :: back := by simpa using eq_of_cut? isCut
        rw [isText]
        exact .shortened (sideGroups?_eq_some_iff.1 isFront) (sideGroups?_eq_some_iff.1 isBack)
          (Nat.sub_pos_of_lt short) (ofGroups?_eq_some_iff.1 isRead)
  · intro denotes
    cases denotes with
    | whole areGroups =>
        have isSide := sideGroups?_eq_some_iff.2 (.groups areGroups)
        have isAddress : ofGroups? address.groups = some address := ofGroups?_eq_some_iff.2 rfl
        simp [read?, areGroups.cut?_eq_none, isSide, isAddress]
    | @shortened front back before after zeros _ isFront isBack someZero all =>
        have eight := address.eight_groups
        simp only [all, List.length_append, List.length_replicate] at eight
        have short : before.length + after.length < 8 := by omega
        have missing : 8 - (before.length + after.length) = zeros := by omega
        have isAddress := ofGroups?_eq_some_iff.2 all
        simp [read?, isFront.cut?_double_colon, sideGroups?_eq_some_iff.2 isFront,
          sideGroups?_eq_some_iff.2 isBack, short, missing, ← isAddress]

theorem Groups.not_mem (areGroups : Groups dottedTail text groups) (separates : char ∈ ['%', ']', '[', '/']) :
    char ∉ text := by
  have besideColon : char ∈ [':', '%', ']', '[', '/'] := List.mem_cons_of_mem _ separates
  have besideDot : char ∈ ['.', ':', '%', ']', '[', '/'] := List.mem_cons_of_mem _ besideColon
  have differs : char ≠ ':' := by
    rintro rfl
    exact absurd separates (by decide)
  induction areGroups with
  | last isGroup => exact isGroup.not_mem besideDot
  | dotted allowed denotes => exact denotes.not_mem besideColon
  | more isGroup areGroups inductionHypothesis =>
      exact List.not_mem_append (isGroup.not_mem besideDot)
        (List.not_mem_cons_of_ne_of_not_mem differs inductionHypothesis)

theorem Side.not_mem (isSide : Side dottedTail text groups) (separates : char ∈ ['%', ']', '[', '/']) :
    char ∉ text := by
  cases isSide with
  | empty => exact List.not_mem_nil
  | groups areGroups => exact areGroups.not_mem separates

/-- No address contains what an endpoint puts around or behind it. -/
theorem Denotes.not_mem (denotes : Denotes text address) (separates : char ∈ ['%', ']', '[', '/']) :
    char ∉ text := by
  have differs : char ≠ ':' := by
    rintro rfl
    exact absurd separates (by decide)
  cases denotes with
  | whole areGroups => exact areGroups.not_mem separates
  | shortened isFront isBack someZero all =>
      exact List.not_mem_append (isFront.not_mem separates)
        (List.not_mem_cons_of_ne_of_not_mem differs
          (List.not_mem_cons_of_ne_of_not_mem differs (isBack.not_mem separates)))

end

end Ipv6

end ConnectionPool
