import ConnectionPool.Address.Ip
import ConnectionPool.Proofs.Text.Fields
import ConnectionPool.Proofs.Text.Numeral

/-!
Contract: the shown form of an internet address, and that it is read back as the same address.

Owns:
- `ZeroRun` and `FirstLongestZeroRun`, what a run of zero groups is and which one is compressed;
- `Ipv6.Shown`, the three forms in which an IPv6 address appears;
- `Ipv4.read?_render` and `Ipv6.read?_render`.

Does not own: scopes, service numbers and brackets.
-/

namespace ConnectionPool

open Text

theorem not_isDigit_of_separator {char : Char} (separates : char ∈ ['.', ':', '%', ']', '[', '/']) :
    ¬ Numeral.IsDigit char := by
  simp only [List.mem_cons, List.not_mem_nil, or_false] at separates
  rcases separates with rfl | rfl | rfl | rfl | rfl | rfl <;> simp [Numeral.IsDigit]

namespace Ipv4

variable {address : Ipv4}

theorem octet?_render (octet : UInt8) : octet? (Numeral.render 10 octet.toNat) = some octet := by
  have small : octet.toNat < 256 := octet.toNat_lt
  have short : (Numeral.render 10 octet.toNat).length ≤ 3 :=
    Numeral.length_render_le (by decide) (by decide) (by omega)
  have plain : (Numeral.render 10 octet.toNat).length = 1 ∨
      (Numeral.render 10 octet.toNat).head? ≠ some '0' :=
    Numeral.length_render_eq_one_or_head?_ne_zero (by decide)
  have value : Numeral.value? 10 (Numeral.render 10 octet.toNat) = some octet.toNat :=
    Numeral.value?_render (by decide) (by decide)
  simp [octet?, short, plain, value, small]

theorem not_mem_octet {char : Char} (separates : char ∈ ['.', ':', '%', ']', '[', '/'])
    (octet : UInt8) : char ∉ Numeral.render 10 octet.toNat :=
  Numeral.not_mem_render (by decide) (by decide) (not_isDigit_of_separator separates)

theorem fields_render :
    fields '.' address.render =
      [address.first, address.second, address.third, address.fourth].map
        fun octet => Numeral.render 10 octet.toNat := by
  apply fields_joined
  · simp
  · intro part isPart
    obtain ⟨octet, -, rfl⟩ := List.mem_map.1 isPart
    exact not_mem_octet (by decide) octet

theorem read?_render (address : Ipv4) : read? address.render = some address := by
  simp [read?, fields_render, octet?_render]

theorem not_mem_render {char : Char} (separates : char ∈ [':', '%', ']', '[', '/']) :
    char ∉ address.render := by
  intro shown
  obtain isDot | ⟨part, isPart, inPart⟩ := mem_joined shown
  · subst isDot
    exact absurd separates (by decide)
  · obtain ⟨octet, -, rfl⟩ := List.mem_map.1 isPart
    exact not_mem_octet (List.mem_cons_of_mem _ separates) octet inPart

/-- A dotted address is too long to be taken for a group. -/
theorem four_lt_length_render : 4 < address.render.length := by
  have shown : ∀ octet : UInt8, 0 < (Numeral.render 10 octet.toNat).length :=
    fun _ => List.length_pos_iff.2 Numeral.render_ne_nil
  have first := shown address.first
  have second := shown address.second
  have third := shown address.third
  have fourth := shown address.fourth
  simp only [render, List.map_cons, List.map_nil, joined, List.length_append, List.length_cons]
  omega

/-- A group is made of its high and its low octet. -/
theorem ofNat_octets (group : UInt16) :
    UInt16.ofNat ((UInt8.ofNat (group.toNat / 256)).toNat * 256 +
      (UInt8.ofNat (group.toNat % 256)).toNat) = group := by
  have small : group.toNat < 65536 := group.toNat_lt
  apply UInt16.toNat_inj.1
  simp only [UInt16.toNat_ofNat', UInt8.toNat_ofNat']
  omega

theorem groups_ofGroups (high low : UInt16) : (ofGroups high low).groups = [high, low] := by
  simp only [groups, ofGroups, ofNat_octets]

end Ipv4

namespace Ipv6

/-- `length` zero groups stand in `groups` from place `start` on. -/
def ZeroRun (groups : List UInt16) (start length : Nat) : Prop :=
  ∃ before after, before.length = start ∧ groups = before ++ List.replicate length 0 ++ after

/-- The run of zero groups that is compressed: no run is longer, and no equally long run is earlier. -/
structure FirstLongestZeroRun (groups : List UInt16) (start length : Nat) : Prop where
  zeroRun : ZeroRun groups start length
  longest : ∀ {otherStart otherLength}, ZeroRun groups otherStart otherLength → otherLength ≤ length
  first : ∀ {otherStart}, ZeroRun groups otherStart length → start ≤ otherStart

section

variable {group : UInt16} {groups : List UInt16} {start length : Nat}

theorem zeroRun_leadingZeros : ZeroRun groups 0 (leadingZeros groups) := by
  induction groups with
  | nil => exact ⟨[], [], rfl, rfl⟩
  | cons group groups inductionHypothesis =>
      by_cases isZero : group = 0
      · subst isZero
        obtain ⟨before, after, noneBefore, isSplit⟩ := inductionHypothesis
        have nothing : before = [] := List.length_eq_zero_iff.1 noneBefore
        subst nothing
        refine ⟨[], after, rfl, ?_⟩
        simpa [leadingZeros, List.replicate_succ] using isSplit
      · exact ⟨[], group :: groups, rfl, by simp [leadingZeros, isZero]⟩

theorem le_leadingZeros (run : ZeroRun groups 0 length) : length ≤ leadingZeros groups := by
  obtain ⟨before, after, noneBefore, isSplit⟩ := run
  have nothing : before = [] := List.length_eq_zero_iff.1 noneBefore
  subst nothing
  simp only [List.nil_append] at isSplit
  subst isSplit
  clear noneBefore
  induction length with
  | zero => exact Nat.zero_le _
  | succ length inductionHypothesis => simpa [List.replicate_succ, leadingZeros] using inductionHypothesis

theorem zeroRun_cons_succ : ZeroRun (group :: groups) (start + 1) length ↔ ZeroRun groups start length := by
  constructor
  · rintro ⟨before, after, place, isSplit⟩
    cases before with
    | nil => simp at place
    | cons head before =>
        simp only [List.cons_append, List.cons.injEq] at isSplit
        exact ⟨before, after, by simpa using place, isSplit.2⟩
  · rintro ⟨before, after, place, isSplit⟩
    exact ⟨group :: before, after, by simp [place], by simp [isSplit]⟩

theorem firstLongestZeroRun_longestZeros (groups : List UInt16) :
    FirstLongestZeroRun groups (longestZeros groups).1 (longestZeros groups).2 := by
  induction groups with
  | nil =>
      refine ⟨⟨[], [], rfl, rfl⟩, ?_, fun _ => Nat.zero_le _⟩
      rintro otherStart otherLength ⟨before, after, -, isSplit⟩
      have lengths := congrArg List.length isSplit
      simp only [List.length_nil, List.length_append, List.length_replicate] at lengths
      exact (by omega : otherLength ≤ 0)
  | cons group groups inductionHypothesis =>
      -- a run in the longer list starts at its head or is a run in its tail, one place later
      have isRun {otherStart otherLength : Nat} (run : ZeroRun (group :: groups) otherStart otherLength) :
          otherStart = 0 ∧ otherLength ≤ leadingZeros (group :: groups) ∨
            ∃ earlier, otherStart = earlier + 1 ∧ ZeroRun groups earlier otherLength := by
        cases otherStart with
        | zero => exact .inl ⟨rfl, le_leadingZeros run⟩
        | succ earlier => exact .inr ⟨earlier, rfl, zeroRun_cons_succ.1 run⟩
      by_cases laterIsLonger : leadingZeros (group :: groups) < (longestZeros groups).2
      · have isLater : longestZeros (group :: groups) =
            ((longestZeros groups).1 + 1, (longestZeros groups).2) := by
          simp [longestZeros, laterIsLonger]
        rw [isLater]
        refine ⟨zeroRun_cons_succ.2 inductionHypothesis.zeroRun, ?_, ?_⟩
        · intro otherStart otherLength run
          obtain ⟨-, short⟩ | ⟨earlier, -, tailRun⟩ := isRun run
          · exact Nat.le_of_lt (Nat.lt_of_le_of_lt short laterIsLonger)
          · exact inductionHypothesis.longest tailRun
        · intro otherStart run
          obtain ⟨-, short⟩ | ⟨earlier, isEarlier, tailRun⟩ := isRun run
          · exact absurd short (Nat.not_le_of_lt laterIsLonger)
          · subst isEarlier
            exact Nat.succ_le_succ (inductionHypothesis.first tailRun)
      · have isHere : longestZeros (group :: groups) = (0, leadingZeros (group :: groups)) := by
          simp [longestZeros, laterIsLonger]
        rw [isHere]
        refine ⟨zeroRun_leadingZeros, ?_, fun _ => Nat.zero_le _⟩
        intro otherStart otherLength run
        obtain ⟨-, short⟩ | ⟨earlier, -, tailRun⟩ := isRun run
        · exact short
        · exact Nat.le_trans (inductionHypothesis.longest tailRun) (Nat.le_of_not_lt laterIsLonger)

/-- A run of zero groups splits the groups into those before it, the zeros and those behind it. -/
theorem ZeroRun.split (run : ZeroRun groups start length) :
    groups = groups.take start ++ List.replicate length 0 ++ groups.drop (start + length) := by
  obtain ⟨before, after, place, isSplit⟩ := run
  subst place isSplit
  simp

end

/-- The form in which an address appears: dotted where it embeds an IPv4 address; else with the first
longest run of at least two zero groups compressed; else with all its groups. -/
inductive Shown (address : Ipv6) : List Char → Prop where
  | dotted (inner : Ipv4) (embeds : address.groups = [0, 0, 0, 0, 0, 0xffff] ++ inner.groups) :
      Shown address ("::ffff:".toList ++ inner.render)
  | compressed (start length : Nat)
      (embedsNone : ∀ inner : Ipv4, address.groups ≠ [0, 0, 0, 0, 0, 0xffff] ++ inner.groups)
      (run : FirstLongestZeroRun address.groups start length) (long : 2 ≤ length) :
      Shown address (renderGroups (address.groups.take start) ++ "::".toList ++
        renderGroups (address.groups.drop (start + length)))
  | whole
      (embedsNone : ∀ inner : Ipv4, address.groups ≠ [0, 0, 0, 0, 0, 0xffff] ++ inner.groups)
      (noRun : ∀ start, ¬ ZeroRun address.groups start 2) :
      Shown address (renderGroups address.groups)

section

variable {address : Ipv6} {groups : List UInt16}

theorem embedded?_eq_some {inner : Ipv4} (isEmbedded : address.embedded? = some inner) :
    address.groups = [0, 0, 0, 0, 0, 0xffff] ++ inner.groups := by
  unfold embedded? at isEmbedded
  split at isEmbedded
  · next high low isGroups =>
      cases isEmbedded
      rw [isGroups, Ipv4.groups_ofGroups]
      rfl
  · cases isEmbedded

theorem embeds_none_of_embedded?_eq_none (notEmbedded : address.embedded? = none) (inner : Ipv4) :
    address.groups ≠ [0, 0, 0, 0, 0, 0xffff] ++ inner.groups := by
  intro embeds
  simp [embedded?, embeds, Ipv4.groups] at notEmbedded

theorem shown_render (address : Ipv6) : Shown address address.render := by
  have run := firstLongestZeroRun_longestZeros address.groups
  cases isEmbedded : address.embedded? with
  | some inner =>
      simp only [render, isEmbedded]
      exact .dotted inner (embedded?_eq_some isEmbedded)
  | none =>
      have embedsNone := embeds_none_of_embedded?_eq_none isEmbedded
      by_cases long : 1 < (longestZeros address.groups).2
      · have isCompressed := Shown.compressed _ _ embedsNone run long
        simpa [render, isEmbedded, long] using isCompressed
      · have noRun (start : Nat) : ¬ ZeroRun address.groups start 2 :=
          fun other => long (run.longest other)
        simpa [render, isEmbedded, long] using Shown.whole embedsNone noRun

theorem group?_render (group : UInt16) : group? (Numeral.render 16 group.toNat) = some group := by
  have small : group.toNat < 65536 := group.toNat_lt
  have short : (Numeral.render 16 group.toNat).length ≤ 4 :=
    Numeral.length_render_le (by decide) (by decide) (by omega)
  have value : Numeral.value? 16 (Numeral.render 16 group.toNat) = some group.toNat :=
    Numeral.value?_render (by decide) (by decide)
  simp [group?, short, value]

theorem not_mem_group {char : Char} (separates : char ∈ ['.', ':', '%', ']', '[', '/'])
    {part : List Char} (isPart : part ∈ groups.map fun group => Numeral.render 16 group.toNat) :
    char ∉ part := by
  obtain ⟨group, -, rfl⟩ := List.mem_map.1 isPart
  exact Numeral.not_mem_render (by decide) (by decide) (not_isDigit_of_separator separates)

theorem group_ne_nil {part : List Char}
    (isPart : part ∈ groups.map fun group => Numeral.render 16 group.toNat) : part ≠ [] := by
  obtain ⟨group, -, rfl⟩ := List.mem_map.1 isPart
  exact Numeral.render_ne_nil

theorem partGroups?_render (dottedTail : Bool) :
    partGroups? dottedTail (groups.map fun group => Numeral.render 16 group.toNat) = some groups := by
  induction groups with
  | nil => rfl
  | cons group groups inductionHypothesis =>
      cases groups with
      | nil => simp [partGroups?, group?_render]
      | cons next groups =>
          simp only [List.map_cons] at inductionHypothesis
          simp [partGroups?, group?_render, inductionHypothesis]

theorem renderGroups_ne_nil (shown : groups ≠ []) : renderGroups groups ≠ [] := by
  match groups with
  | [] => exact absurd rfl shown
  | [group] => simpa [renderGroups, joined] using Numeral.render_ne_nil
  | group :: next :: groups => simp [renderGroups, joined]

theorem sideGroups?_renderGroups (dottedTail : Bool) (groups : List UInt16) :
    sideGroups? dottedTail (renderGroups groups) = some groups := by
  by_cases noGroup : groups = []
  · subst noGroup
    rfl
  · have shown : (renderGroups groups).isEmpty = false := by
      simpa using renderGroups_ne_nil noGroup
    have parts : fields ':' (renderGroups groups) =
        groups.map fun group => Numeral.render 16 group.toNat :=
      fields_joined (by simpa using noGroup) fun part isPart => not_mem_group (by decide) isPart
    simp [sideGroups?, shown, parts, partGroups?_render]

theorem cut?_renderGroups (groups : List UInt16) (text : List Char) :
    cut? [':', ':'] (renderGroups groups ++ text) =
      (cut? [':', ':'] text).map fun sides => (renderGroups groups ++ sides.1, sides.2) :=
  cut?_double_joined (fun _ isPart => not_mem_group (by decide) isPart)
    (fun _ isPart => group_ne_nil isPart) text

theorem read?_whole (address : Ipv6) : read? (renderGroups address.groups) = some address := by
  have uncut : cut? [':', ':'] (renderGroups address.groups) = none := by
    simpa [cut?, after?] using cut?_renderGroups address.groups []
  simp [read?, uncut, sideGroups?_renderGroups, ofGroups?, address.eight_groups]

theorem read?_compressed {before after : List UInt16} {length : Nat} (positive : 0 < length)
    (isSplit : address.groups = before ++ List.replicate length 0 ++ after) :
    read? (renderGroups before ++ "::".toList ++ renderGroups after) = some address := by
  have isCut : cut? [':', ':'] (renderGroups before ++ "::".toList ++ renderGroups after) =
      some (renderGroups before, renderGroups after) := by
    have atOnce : cut? [':', ':'] ("::".toList ++ renderGroups after) = some ([], renderGroups after) :=
      cut?_separator (renderGroups after)
    rw [List.append_assoc, cut?_renderGroups, atOnce]
    simp
  have lengths : before.length + length + after.length = 8 := by
    have eight := address.eight_groups
    rw [isSplit] at eight
    simpa [Nat.add_assoc] using eight
  have written : before.length + after.length < 8 := by omega
  have missing : 8 - (before.length + after.length) = length := by omega
  have whole : ofGroups? (before ++ List.replicate length 0 ++ after) = some address := by
    rw [← isSplit]
    simp [ofGroups?, address.eight_groups]
  simp only [read?, isCut, sideGroups?_renderGroups, Option.bind_eq_bind, Option.bind_some, written,
    if_true, missing, whole]

theorem read?_dotted {inner : Ipv4}
    (embeds : address.groups = [0, 0, 0, 0, 0, 0xffff] ++ inner.groups) :
    read? ("::ffff:".toList ++ inner.render) = some address := by
  have isCut : cut? [':', ':'] ("::ffff:".toList ++ inner.render) =
      some ([], "ffff:".toList ++ inner.render) :=
    cut?_separator ("ffff:".toList ++ inner.render)
  have colonFree : ':' ∉ inner.render := Ipv4.not_mem_render (by decide)
  have parts : fields ':' ("ffff:".toList ++ inner.render) = ["ffff".toList, inner.render] := by
    have plain : ':' ∉ "ffff".toList := by decide
    have cutOff := fields_append_separator plain inner.render
    rw [fields_of_not_mem colonFree] at cutOff
    exact cutOff
  have noGroup : group? inner.render = none := by
    simp [group?, Ipv4.four_lt_length_render]
  have marker : group? "ffff".toList = some 0xffff := by decide
  have behind : sideGroups? true ("ffff:".toList ++ inner.render) =
      some (0xffff :: inner.groups) := by
    have shown : ("ffff:".toList ++ inner.render).isEmpty = false := rfl
    simp only [sideGroups?, shown, parts, partGroups?, marker, noGroup, Ipv4.read?_render]
    rfl
  have whole : ofGroups? ([] ++ List.replicate 5 0 ++ 0xffff :: inner.groups) = some address := by
    have isWhole : [] ++ List.replicate 5 0 ++ 0xffff :: inner.groups = address.groups := embeds.symm
    rw [isWhole]
    simp [ofGroups?, address.eight_groups]
  simp only [read?, isCut, behind]
  exact whole

/-- Every shown form of an address is read back as the address. -/
theorem Shown.read? {text : List Char} (shown : Shown address text) :
    Ipv6.read? text = some address := by
  cases shown with
  | dotted inner embeds => exact read?_dotted embeds
  | compressed start length embedsNone run long =>
      exact read?_compressed (by omega) run.zeroRun.split
  | whole embedsNone noRun => exact read?_whole address

theorem read?_render (address : Ipv6) : read? address.render = some address :=
  (shown_render address).read?

theorem not_mem_renderGroups {char : Char} (separates : char ∈ ['%', ']', '[', '/']) :
    char ∉ renderGroups groups := by
  intro shown
  obtain isColon | ⟨part, isPart, inPart⟩ := mem_joined shown
  · subst isColon
    exact absurd separates (by decide)
  · have noDigit : char ∈ ['.', ':', '%', ']', '[', '/'] :=
      List.mem_cons_of_mem _ (List.mem_cons_of_mem _ separates)
    exact not_mem_group noDigit isPart inPart

/-- No shown form contains what an endpoint puts around or behind an address. -/
theorem Shown.not_mem {text : List Char} (shown : Shown address text) {char : Char}
    (separates : char ∈ ['%', ']', '[', '/']) : char ∉ text := by
  have noColon : char ∉ "::".toList := by
    intro isColon
    simp only [List.mem_cons, List.not_mem_nil, or_false] at separates
    rcases separates with rfl | rfl | rfl | rfl <;> exact absurd isColon (by decide)
  have noMarker : char ∉ "::ffff:".toList := by
    intro inMarker
    simp only [List.mem_cons, List.not_mem_nil, or_false] at separates
    rcases separates with rfl | rfl | rfl | rfl <;> exact absurd inMarker (by decide)
  have noDot (inner : Ipv4) : char ∉ inner.render :=
    Ipv4.not_mem_render (List.mem_cons_of_mem _ separates)
  cases shown with
  | dotted inner embeds => exact List.not_mem_append noMarker (noDot inner)
  | compressed start length embedsNone run long =>
      exact List.not_mem_append
        (List.not_mem_append (not_mem_renderGroups separates) noColon) (not_mem_renderGroups separates)
  | whole embedsNone noRun => exact not_mem_renderGroups separates

end

end Ipv6

end ConnectionPool
