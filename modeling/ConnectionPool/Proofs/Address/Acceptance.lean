import ConnectionPool.Address.ServerAddress
import ConnectionPool.Proofs.Address.Grammar

/-!
Contract: which texts are addresses that a server can be given, which addresses they are, and why any other
text is none.

Owns:
- `Endpoint.Denotes`, the grammar of endpoints, and `Endpoint.read?_eq_some_iff`;
- `ServerAddress.Denotes` and `ServerAddress.Refused`, the texts that name an address and those that do not;
- `ServerAddress.parse_judged`, that `ServerAddress.parse` tells them apart.

Does not own: the canonical text of an address.
-/

namespace ConnectionPool

open Text

namespace Endpoint

/-- What stands in brackets: an IPv6 address, possibly with a scope behind a percent sign. -/
inductive Inside : List Char → Ipv6 → UInt32 → Prop where
  | withoutScope {host : List Char} {address : Ipv6} (isHost : Ipv6.Denotes host address) :
      Inside host address 0
  | withScope {host zone : List Char} {address : Ipv6} {scope : UInt32} (isHost : Ipv6.Denotes host address)
      (isScope : Numeral.Denotes 10 zone scope.toNat) : Inside (host ++ '%' :: zone) address scope

/-- An endpoint is an IPv4 address, or an IPv6 address in brackets, with a decimal service number behind a
colon. The types of the service number and of the scope bound them. -/
inductive Denotes : List Char → Endpoint → Prop where
  | v4 {host port : List Char} {address : Ipv4} {service : UInt16} (isHost : Ipv4.Denotes host address)
      (isService : Numeral.Denotes 10 port service.toNat) : Denotes (host ++ ':' :: port) (.v4 address service)
  | v6 {inside port : List Char} {address : Ipv6} {scope : UInt32} {service : UInt16}
      (isInside : Inside inside address scope) (isService : Numeral.Denotes 10 port service.toNat) :
      Denotes ('[' :: inside ++ ']' :: ':' :: port) (.v6 address scope service)

/-- The texts that are no endpoint. A slash at the end is blamed before anything else. -/
inductive Refused (rest : String) : AddressError → Prop where
  | trailingSlash (front : String) (ends : rest = front ++ "/") : Refused rest (.trailingSlash rest)
  | invalidEndpoint (noSlash : ∀ front : String, rest ≠ front ++ "/")
      (underivable : ∀ endpoint, ¬ Denotes rest.toList endpoint) : Refused rest (.invalidEndpoint rest)

section

variable {rest : String} {error : AddressError} {text inside : List Char} {service : UInt16} {scope : UInt32}
  {address : Ipv6} {endpoint : Endpoint}

theorem service?_eq_some_iff : service? text = some service ↔ Numeral.Denotes 10 text service.toNat := by
  rw [← Numeral.value?_eq_some_iff (by decide)]
  unfold service?
  constructor
  · intro isService
    split at isService
    · next value isValue =>
        split_ifs at isService with small
        rw [isValue, ← Option.some.inj isService, UInt16.toNat_ofNat_of_lt' small]
    · cases isService
  · intro isValue
    have small : service.toNat < 65536 := service.toNat_lt
    simp [isValue, small]

theorem scope?_eq_some_iff : scope? text = some scope ↔ Numeral.Denotes 10 text scope.toNat := by
  rw [← Numeral.value?_eq_some_iff (by decide)]
  unfold scope?
  constructor
  · intro isScope
    split at isScope
    · next value isValue =>
        split_ifs at isScope with small
        rw [isValue, ← Option.some.inj isScope, UInt32.toNat_ofNat_of_lt' small]
    · cases isScope
  · intro isValue
    have small : scope.toNat < 4294967296 := scope.toNat_lt
    simp [isValue, small]

theorem not_mem_numeral {char : Char} {number : Nat} (denotes : Numeral.Denotes 10 text number)
    (separates : char ∈ ['.', ':', '%', ']', '[', '/']) : char ∉ text :=
  denotes.not_mem (by decide) (digitValue?_of_separator separates 10)

theorem scoped?_eq_some_iff : scoped? inside = some (address, scope) ↔ Inside inside address scope := by
  constructor
  · intro isInside
    unfold scoped? at isInside
    split at isInside
    · obtain ⟨host, isHost, isPair⟩ := Option.map_eq_some_iff.1 isInside
      obtain ⟨rfl, rfl⟩ := Prod.mk.inj isPair
      exact .withoutScope (Ipv6.read?_eq_some_iff.1 isHost)
    · next host zone isCut =>
        obtain ⟨read, isHost, isInside⟩ := Option.bind_eq_some_iff.1 isInside
        obtain ⟨readScope, isScope, isPair⟩ := Option.bind_eq_some_iff.1 isInside
        obtain ⟨rfl, rfl⟩ := Prod.mk.inj (Option.some.inj isPair)
        have isText : inside = host ++ '%' :: zone := by simpa using eq_of_cut? isCut
        rw [isText]
        exact .withScope (Ipv6.read?_eq_some_iff.1 isHost) (scope?_eq_some_iff.1 isScope)
  · intro isInside
    cases isInside with
    | withoutScope isHost =>
        have noScope : cut? ['%'] inside = none := cut?_of_not_mem (isHost.not_mem (by decide))
        simp [scoped?, noScope, Ipv6.read?_eq_some_iff.2 isHost]
    | @withScope host zone _ _ isHost isScope =>
        have isCut : cut? ['%'] (host ++ '%' :: zone) = some (host, zone) :=
          cut?_append_separator (isHost.not_mem (by decide)) zone
        simp [scoped?, isCut, Ipv6.read?_eq_some_iff.2 isHost, scope?_eq_some_iff.2 isScope]

theorem Inside.not_mem_bracket (isInside : Inside inside address scope) : ']' ∉ inside := by
  cases isInside with
  | withoutScope isHost => exact isHost.not_mem (by decide)
  | withScope isHost isScope =>
      exact List.not_mem_append (isHost.not_mem (by decide))
        (List.not_mem_cons_of_ne_of_not_mem (by decide) (not_mem_numeral isScope (by decide)))

/-- Exactly the endpoints of the grammar are read. -/
theorem read?_eq_some_iff : read? text = some endpoint ↔ Denotes text endpoint := by
  constructor
  · intro isRead
    unfold read? at isRead
    split at isRead
    · next bracketed =>
        split at isRead
        · next inside port isCut =>
            obtain ⟨⟨address, scope⟩, isInside, isRead⟩ := Option.bind_eq_some_iff.1 isRead
            obtain ⟨service, isService, isEndpoint⟩ := Option.bind_eq_some_iff.1 isRead
            obtain rfl := Option.some.inj isEndpoint
            have isText : bracketed = inside ++ ']' :: ':' :: port := by simpa using eq_of_cut? isCut
            rw [isText]
            exact .v6 (scoped?_eq_some_iff.1 isInside) (service?_eq_some_iff.1 isService)
        · cases isRead
    · split at isRead
      · next host port isCut =>
          obtain ⟨address, isHost, isRead⟩ := Option.bind_eq_some_iff.1 isRead
          obtain ⟨service, isService, isEndpoint⟩ := Option.bind_eq_some_iff.1 isRead
          obtain rfl := Option.some.inj isEndpoint
          have isText : text = host ++ ':' :: port := by simpa using eq_of_cut? isCut
          rw [isText]
          exact .v4 (Ipv4.read?_eq_some_iff.1 isHost) (service?_eq_some_iff.1 isService)
      · cases isRead
  · intro denotes
    cases denotes with
    | @v4 host port address service isHost isService =>
        have noBracket : '[' ∉ host ++ ':' :: port :=
          List.not_mem_append (isHost.not_mem (by decide))
            (List.not_mem_cons_of_ne_of_not_mem (by decide) (not_mem_numeral isService (by decide)))
        have isCut : cut? [':'] (host ++ ':' :: port) = some (host, port) :=
          cut?_append_separator (isHost.not_mem (by decide)) port
        unfold read?
        split
        · next bracketed isText => exact absurd (isText ▸ List.mem_cons_self) noBracket
        · simp [isCut, Ipv4.read?_eq_some_iff.2 isHost, service?_eq_some_iff.2 isService]
    | @v6 inside port address scope service isInside isService =>
        have isCut : cut? [']'] (inside ++ ']' :: ':' :: port) = some (inside, ':' :: port) :=
          cut?_append_separator isInside.not_mem_bracket _
        simp [read?, isCut, scoped?_eq_some_iff.2 isInside, service?_eq_some_iff.2 isService]

/-- The last character of an endpoint is a digit of its service number. -/
theorem Denotes.getLast?_ne_slash (denotes : Denotes text endpoint) : text.getLast? ≠ some '/' := by
  have behind (front : List Char) {port : List Char} {number : Nat}
      (isService : Numeral.Denotes 10 port number) : (front ++ ':' :: port).getLast? ≠ some '/' := by
    intro isSlash
    have lastShown : port.getLast?.isSome := by simp [isService.ne_nil]
    rw [List.append_cons, List.getLast?_append, Option.or_of_isSome lastShown] at isSlash
    exact not_mem_numeral isService (by decide) (List.mem_of_getLast? isSlash)
  cases denotes with
  | @v4 host port address service isHost isService => exact behind host isService
  | @v6 inside port address scope service isInside isService =>
      simpa using behind ('[' :: inside ++ [']']) isService

theorem getLast?_eq_slash_iff :
    rest.toList.getLast? = some '/' ↔ ∃ front : String, rest = front ++ "/" := by
  rw [List.getLast?_eq_some_iff]
  constructor
  · rintro ⟨front, isFront⟩
    refine ⟨String.ofList front, String.toList_injective ?_⟩
    rw [isFront, String.toList_append, String.toList_ofList]
    rfl
  · rintro ⟨front, rfl⟩
    exact ⟨front.toList, String.toList_append⟩

theorem Denotes.parse (denotes : Denotes rest.toList endpoint) : Endpoint.parse rest = .ok endpoint := by
  rw [Endpoint.parse, if_neg denotes.getLast?_ne_slash, read?_eq_some_iff.2 denotes]

theorem Refused.parse (refused : Refused rest error) : Endpoint.parse rest = .error error := by
  cases refused with
  | trailingSlash front ends => rw [Endpoint.parse, if_pos (getLast?_eq_slash_iff.2 ⟨front, ends⟩)]
  | invalidEndpoint noSlash underivable =>
      have notLast : rest.toList.getLast? ≠ some '/' := by
        intro isLast
        obtain ⟨front, ends⟩ := getLast?_eq_slash_iff.1 isLast
        exact noSlash front ends
      have unread : Endpoint.read? rest.toList = none := by
        apply Option.eq_none_iff_forall_ne_some.2
        intro endpoint isRead
        exact underivable endpoint (read?_eq_some_iff.1 isRead)
      rw [Endpoint.parse, if_neg notLast, unread]

theorem denotes_or_refused (rest : String) :
    (∃ endpoint, Denotes rest.toList endpoint) ∨ ∃ error, Refused rest error := by
  by_cases slash : ∃ front : String, rest = front ++ "/"
  · obtain ⟨front, ends⟩ := slash
    exact .inr ⟨_, .trailingSlash front ends⟩
  · by_cases derivable : ∃ endpoint, Denotes rest.toList endpoint
    · exact .inl derivable
    · exact .inr ⟨_, .invalidEndpoint (not_exists.1 slash) (not_exists.1 derivable)⟩

end

end Endpoint

namespace ServerAddress

/-- The two sides of the first `://` of a text. -/
structure Parts (uri scheme rest : String) : Prop where
  whole : uri = scheme ++ "://" ++ rest
  first : ∀ front back : String, uri = front ++ "://" ++ back → scheme.length ≤ front.length

/-- A scheme is written in any ASCII case. -/
def Spells (written scheme : String) : Prop :=
  written.toList.map Char.toLower = scheme.toList

instance (written scheme : String) : Decidable (Spells written scheme) :=
  inferInstanceAs (Decidable (_ = _))

/-- The schemes of the transports that listen on an endpoint. -/
inductive IsNetwork (written : String) : Prop where
  | tcp (spells : Spells written "tcp")
  | ssl (spells : Spells written "ssl")
  | tls (spells : Spells written "tls")

/-- The texts that name an address. -/
inductive Denotes (uri : String) : ServerAddress → Prop where
  | tcp {scheme rest : String} {endpoint : Endpoint} (parts : Parts uri scheme rest)
      (spells : Spells scheme "tcp") (denotes : Endpoint.Denotes rest.toList endpoint) :
      Denotes uri (.tcp endpoint)
  | ssl {scheme rest : String} {endpoint : Endpoint} (parts : Parts uri scheme rest)
      (spells : Spells scheme "ssl" ∨ Spells scheme "tls")
      (denotes : Endpoint.Denotes rest.toList endpoint) : Denotes uri (.ssl endpoint)
  | localSocket {scheme rest : String} (parts : Parts uri scheme rest) (spells : Spells scheme "local")
      (nonempty : rest ≠ "") : Denotes uri (.localSocket rest)

/-- The texts that name no address, each for one cause: no two of the cases below overlap. -/
inductive Refused (uri : String) : AddressError → Prop where
  | missingScheme (nowhere : ∀ front back : String, uri ≠ front ++ "://" ++ back) :
      Refused uri (.missingScheme uri)
  | unknownScheme {scheme rest : String} (parts : Parts uri scheme rest) (noNetwork : ¬ IsNetwork scheme)
      (notLocal : ¬ Spells scheme "local") :
      Refused uri (.unknownScheme (String.ofList (scheme.toList.map Char.toLower)))
  | emptyLocalName {scheme : String} (parts : Parts uri scheme "") (spells : Spells scheme "local") :
      Refused uri .emptyLocalName
  | noEndpoint {scheme rest : String} {error : AddressError} (parts : Parts uri scheme rest)
      (isNetwork : IsNetwork scheme) (refused : Endpoint.Refused rest error) : Refused uri error

section

variable {uri scheme rest written : String} {address : ServerAddress} {error : AddressError}
  {endpoint : Endpoint}

theorem toList_split {front back : String} :
    uri = front ++ "://" ++ back ↔ uri.toList = front.toList ++ "://".toList ++ back.toList := by
  rw [← String.toList_append, ← String.toList_append]
  exact ⟨congrArg String.toList, fun same => String.toList_injective same⟩

theorem parts_iff : Parts uri scheme rest ↔
    cut? "://".toList uri.toList = some (scheme.toList, rest.toList) := by
  rw [cut?_eq_some_iff, ← toList_split]
  constructor
  · rintro ⟨whole, first⟩
    refine ⟨whole, fun front back isSplit => ?_⟩
    have shorter := first (String.ofList front) (String.ofList back) (toList_split.2 (by simpa using isSplit))
    rwa [String.length_ofList, ← String.length_toList] at shorter
  · rintro ⟨whole, first⟩
    refine ⟨whole, fun front back isSplit => ?_⟩
    have shorter := first front.toList back.toList (toList_split.1 isSplit)
    rwa [String.length_toList, String.length_toList] at shorter

theorem cut?_eq_none_of_nowhere (nowhere : ∀ front back : String, uri ≠ front ++ "://" ++ back) :
    cut? "://".toList uri.toList = none := by
  refine cut?_eq_none_iff.2 fun front back isSplit => ?_
  exact nowhere (String.ofList front) (String.ofList back) (toList_split.2 (by simpa using isSplit))

theorem spells_iff : Spells written scheme ↔ String.ofList (written.toList.map Char.toLower) = scheme := by
  unfold Spells
  constructor
  · intro spells
    rw [spells, String.ofList_toList]
  · rintro rfl
    rw [String.toList_ofList]

theorem Spells.eq {other : String} (spells : Spells written scheme) (spellsOther : Spells written other) :
    scheme = other :=
  String.toList_injective (spells.symm.trans spellsOther)

/-- Where a text is split, its scheme decides what is made of the rest. -/
theorem parse_of_parts (parts : Parts uri scheme rest) : parse uri =
    if Spells scheme "tcp" then
      (Endpoint.parse rest).map .tcp
    else if Spells scheme "ssl" ∨ Spells scheme "tls" then
      (Endpoint.parse rest).map .ssl
    else if Spells scheme "local" then
      if rest.isEmpty then .error .emptyLocalName else .ok (.localSocket rest)
    else
      .error (.unknownScheme (String.ofList (scheme.toList.map Char.toLower))) := by
  simp only [parse, parts_iff.1 parts, spells_iff, String.ofList_toList]

theorem parse_of_tcp (parts : Parts uri scheme rest) (spells : Spells scheme "tcp") :
    parse uri = (Endpoint.parse rest).map .tcp := by
  rw [parse_of_parts parts, if_pos spells]

theorem parse_of_ssl (parts : Parts uri scheme rest) (spells : Spells scheme "ssl" ∨ Spells scheme "tls") :
    parse uri = (Endpoint.parse rest).map .ssl := by
  have notTcp : ¬ Spells scheme "tcp" := by
    intro isTcp
    obtain isSsl | isTls := spells
    · exact absurd (isSsl.eq isTcp) (by decide)
    · exact absurd (isTls.eq isTcp) (by decide)
  rw [parse_of_parts parts, if_neg notTcp, if_pos spells]

theorem parse_of_local (parts : Parts uri scheme rest) (spells : Spells scheme "local") :
    parse uri = if rest.isEmpty then .error .emptyLocalName else .ok (.localSocket rest) := by
  have notTcp : ¬ Spells scheme "tcp" := fun isTcp => absurd (spells.eq isTcp) (by decide)
  have notSsl : ¬ (Spells scheme "ssl" ∨ Spells scheme "tls") := by
    rintro (isSsl | isTls)
    · exact absurd (spells.eq isSsl) (by decide)
    · exact absurd (spells.eq isTls) (by decide)
  rw [parse_of_parts parts, if_neg notTcp, if_neg notSsl, if_pos spells]

theorem Denotes.parse (denotes : Denotes uri address) : ServerAddress.parse uri = .ok address := by
  cases denotes with
  | tcp parts spells denotes =>
      rw [parse_of_tcp parts spells, denotes.parse]
      rfl
  | ssl parts spells denotes =>
      rw [parse_of_ssl parts spells, denotes.parse]
      rfl
  | @localSocket scheme rest parts spells nonempty =>
      have shown : rest.isEmpty = false := by simpa using nonempty
      rw [parse_of_local parts spells, shown]
      rfl

theorem Refused.parse (refused : Refused uri error) : ServerAddress.parse uri = .error error := by
  cases refused with
  | missingScheme nowhere => rw [ServerAddress.parse, cut?_eq_none_of_nowhere nowhere]
  | unknownScheme parts noNetwork notLocal =>
      have notTcp : ¬ Spells _ "tcp" := fun isTcp => noNetwork (.tcp isTcp)
      have notSsl : ¬ (Spells _ "ssl" ∨ Spells _ "tls") :=
        fun spells => noNetwork (spells.elim .ssl .tls)
      rw [parse_of_parts parts, if_neg notTcp, if_neg notSsl, if_neg notLocal]
  | emptyLocalName parts spells =>
      rw [parse_of_local parts spells]
      rfl
  | noEndpoint parts isNetwork refused =>
      cases isNetwork with
      | tcp spells =>
          rw [parse_of_tcp parts spells, refused.parse]
          rfl
      | ssl spells =>
          rw [parse_of_ssl parts (.inl spells), refused.parse]
          rfl
      | tls spells =>
          rw [parse_of_ssl parts (.inr spells), refused.parse]
          rfl

theorem exists_parts_or_nowhere (uri : String) :
    (∃ scheme rest, Parts uri scheme rest) ∨ ∀ front back : String, uri ≠ front ++ "://" ++ back := by
  cases isCut : cut? "://".toList uri.toList with
  | none =>
      refine .inr fun front back isSplit => ?_
      exact cut?_eq_none_iff.1 isCut front.toList back.toList (toList_split.1 isSplit)
  | some sides =>
      refine .inl ⟨String.ofList sides.1, String.ofList sides.2, parts_iff.2 ?_⟩
      rw [isCut, String.toList_ofList, String.toList_ofList]

/-- The grammar and the causes for which a text is refused leave no text out. -/
theorem denotes_or_refused (uri : String) :
    (∃ address, Denotes uri address) ∨ ∃ error, Refused uri error := by
  obtain ⟨scheme, rest, parts⟩ | nowhere := exists_parts_or_nowhere uri
  · by_cases isNetwork : IsNetwork scheme
    · obtain ⟨endpoint, denotes⟩ | ⟨error, refused⟩ := Endpoint.denotes_or_refused rest
      · cases isNetwork with
        | tcp spells => exact .inl ⟨_, .tcp parts spells denotes⟩
        | ssl spells => exact .inl ⟨_, .ssl parts (.inl spells) denotes⟩
        | tls spells => exact .inl ⟨_, .ssl parts (.inr spells) denotes⟩
      · exact .inr ⟨error, .noEndpoint parts isNetwork refused⟩
    · by_cases isLocal : Spells scheme "local"
      · by_cases isEmpty : rest = ""
        · subst isEmpty
          exact .inr ⟨_, .emptyLocalName parts isLocal⟩
        · exact .inl ⟨_, .localSocket parts isLocal isEmpty⟩
      · exact .inr ⟨_, .unknownScheme parts isNetwork isLocal⟩
  · exact .inr ⟨_, .missingScheme nowhere⟩

end

/-- What is asked of the reader of addresses. -/
structure Judged (uri : String) : Prop where
  accepted_iff : ∀ address, ServerAddress.parse uri = .ok address ↔ Denotes uri address
  refused_iff : ∀ error, ServerAddress.parse uri = .error error ↔ Refused uri error

/-- Exactly the texts that name an address are accepted, as the address that they name, and any other text is
refused for its cause. -/
theorem parse_judged (uri : String) : Judged uri := by
  refine ⟨fun address => ⟨fun accepted => ?_, Denotes.parse⟩,
    fun error => ⟨fun rejected => ?_, Refused.parse⟩⟩
  · obtain ⟨other, denotes⟩ | ⟨error, refused⟩ := denotes_or_refused uri
    · obtain rfl := Except.ok.inj (denotes.parse.symm.trans accepted)
      exact denotes
    · exact absurd (refused.parse.symm.trans accepted) (by simp)
  · obtain ⟨address, denotes⟩ | ⟨other, refused⟩ := denotes_or_refused uri
    · exact absurd (denotes.parse.symm.trans rejected) (by simp)
    · obtain rfl := Except.error.inj (refused.parse.symm.trans rejected)
      exact refused

end ServerAddress

end ConnectionPool
