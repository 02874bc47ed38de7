import ConnectionPool.Address.ServerAddress
import ConnectionPool.Proofs.Address.Ip

/-!
Contract: the canonical text of an address names that address and no other.

Owns:
- `Endpoint.Shown`, the form in which an endpoint appears;
- `Endpoint.parse_text` and `ServerAddress.parse_text`, which read the canonical text back;
- `ServerAddress.canonicalText_of_parse`, the law of addresses and their text.

Does not own: which texts besides the canonical one name an address.
-/

namespace ConnectionPool

open Text

namespace Endpoint

/-- The form in which an endpoint appears. The service number is decimal; an IPv6 address stands in
brackets, together with its scope unless that is zero. -/
inductive Shown : Endpoint → List Char → Prop where
  | v4 (address : Ipv4) (service : UInt16) :
      Shown (.v4 address service) (address.render ++ ':' :: Numeral.render 10 service.toNat)
  | v6 (address : Ipv6) (service : UInt16) (inside : List Char) (shown : address.Shown inside) :
      Shown (.v6 address 0 service) ('[' :: inside ++ ']' :: ':' :: Numeral.render 10 service.toNat)
  | v6Scoped (address : Ipv6) (scope : UInt32) (service : UInt16) (inside : List Char)
      (shown : address.Shown inside) (hasScope : scope ≠ 0) :
      Shown (.v6 address scope service) ('[' :: inside ++ '%' :: Numeral.render 10 scope.toNat ++
        ']' :: ':' :: Numeral.render 10 service.toNat)

theorem shown_render (endpoint : Endpoint) : endpoint.Shown endpoint.render := by
  match endpoint with
  | .v4 address service => exact .v4 address service
  | .v6 address scope service =>
      by_cases noScope : scope = 0
      · subst noScope
        simpa [render] using Shown.v6 address service _ (Ipv6.shown_render address)
      · simpa [render, noScope] using
          Shown.v6Scoped address scope service _ (Ipv6.shown_render address) noScope

theorem not_mem_decimal {char : Char} (separates : char ∈ ['.', ':', '%', ']', '[', '/']) (number : Nat) :
    char ∉ Numeral.render 10 number :=
  Numeral.not_mem_render (by decide) (by decide) (not_isDigit_of_separator separates)

theorem service?_render (service : UInt16) :
    service? (Numeral.render 10 service.toNat) = some service := by
  have small : service.toNat < 65536 := service.toNat_lt
  have value : Numeral.value? 10 (Numeral.render 10 service.toNat) = some service.toNat :=
    Numeral.value?_render (by decide) (by decide)
  simp [service?, value, small]

theorem scope?_render (scope : UInt32) : scope? (Numeral.render 10 scope.toNat) = some scope := by
  have small : scope.toNat < 4294967296 := scope.toNat_lt
  have value : Numeral.value? 10 (Numeral.render 10 scope.toNat) = some scope.toNat :=
    Numeral.value?_render (by decide) (by decide)
  simp [scope?, value, small]

theorem read?_bracketed {inside : List Char} {address : Ipv6} {scope : UInt32} (service : UInt16)
    (free : ']' ∉ inside) (inBrackets : scoped? inside = some (address, scope)) :
    read? ('[' :: inside ++ ']' :: ':' :: Numeral.render 10 service.toNat) =
      some (.v6 address scope service) := by
  have isCut : cut? [']'] (inside ++ ']' :: ':' :: Numeral.render 10 service.toNat) =
      some (inside, ':' :: Numeral.render 10 service.toNat) :=
    cut?_append_separator free _
  simp [read?, isCut, inBrackets, service?_render]

/-- Every shown form of an endpoint is read back as the endpoint. -/
theorem Shown.read? {endpoint : Endpoint} {text : List Char} (shown : endpoint.Shown text) :
    Endpoint.read? text = some endpoint := by
  cases shown with
  | v4 address service =>
      have noBracket : '[' ∉ address.render ++ ':' :: Numeral.render 10 service.toNat :=
        List.not_mem_append (Ipv4.not_mem_render (by decide))
          (List.not_mem_cons_of_ne_of_not_mem (by decide) (not_mem_decimal (by decide) _))
      have isCut : cut? [':'] (address.render ++ ':' :: Numeral.render 10 service.toNat) =
          some (address.render, Numeral.render 10 service.toNat) :=
        cut?_append_separator (Ipv4.not_mem_render (by decide)) _
      unfold Endpoint.read?
      split
      · next bracketed isText => exact absurd (isText ▸ List.mem_cons_self) noBracket
      · simp [isCut, Ipv4.read?_render, service?_render]
  | v6 address service inside shown =>
      have noScope : cut? ['%'] inside = none := cut?_of_not_mem (shown.not_mem (by decide))
      exact read?_bracketed service (shown.not_mem (by decide)) (by simp [scoped?, noScope, shown.read?])
  | v6Scoped address scope service inside shown hasScope =>
      have isCut : cut? ['%'] (inside ++ '%' :: Numeral.render 10 scope.toNat) =
          some (inside, Numeral.render 10 scope.toNat) :=
        cut?_append_separator (shown.not_mem (by decide)) _
      have free : ']' ∉ inside ++ '%' :: Numeral.render 10 scope.toNat :=
        List.not_mem_append (shown.not_mem (by decide))
          (List.not_mem_cons_of_ne_of_not_mem (by decide) (not_mem_decimal (by decide) _))
      have inBrackets : scoped? (inside ++ '%' :: Numeral.render 10 scope.toNat) =
          some (address, scope) := by
        simp [scoped?, isCut, shown.read?, scope?_render]
      simpa using read?_bracketed service free inBrackets

/-- The last character of an endpoint is a digit of its service number. -/
theorem Shown.getLast?_ne_slash {endpoint : Endpoint} {text : List Char} (shown : endpoint.Shown text) :
    text.getLast? ≠ some '/' := by
  have behind (front : List Char) (service : UInt16) :
      (front ++ ':' :: Numeral.render 10 service.toNat).getLast? ≠ some '/' := by
    intro isSlash
    have lastShown : (Numeral.render 10 service.toNat).getLast?.isSome := by
      simp [Numeral.render_ne_nil]
    rw [List.append_cons, List.getLast?_append, Option.or_of_isSome lastShown] at isSlash
    exact not_mem_decimal (by decide) _ (List.mem_of_getLast? isSlash)
  cases shown with
  | v4 address service => exact behind address.render service
  | v6 address service inside shown => simpa using behind ('[' :: inside ++ [']']) service
  | v6Scoped address scope service inside shown hasScope =>
      simpa using behind ('[' :: inside ++ '%' :: Numeral.render 10 scope.toNat ++ [']']) service

theorem parse_text (endpoint : Endpoint) : Endpoint.parse endpoint.text = .ok endpoint := by
  have shown := endpoint.shown_render
  simp [Endpoint.parse, text, shown.getLast?_ne_slash, shown.read?]

end Endpoint

namespace ServerAddress

/-- What the text of an address says: it is read back as the address, its endpoint is read back as the
endpoint and stands there in the shown form, and no other address has the text. -/
structure CanonicalText (address : ServerAddress) : Prop where
  parses : parse address.text = .ok address
  endpointParses : ∀ endpoint, address = .tcp endpoint ∨ address = .ssl endpoint →
    Endpoint.parse address.rest = .ok endpoint ∧ endpoint.Shown address.rest.toList
  separates : ∀ otherUri other, parse otherUri = .ok other →
    (address = other ↔ address.text = other.text)

variable {address : ServerAddress}

theorem parse_of_scheme (scheme : String) (plain : ':' ∉ scheme.toList) (rest : String) :
    parse (scheme ++ "://" ++ rest) =
      let scheme := String.ofList (scheme.toList.map Char.toLower)
      if scheme = "tcp" then
        (Endpoint.parse rest).map .tcp
      else if scheme = "ssl" ∨ scheme = "tls" then
        (Endpoint.parse rest).map .ssl
      else if scheme = "local" then
        if rest.isEmpty then .error .emptyLocalName else .ok (.localSocket rest)
      else
        .error (.unknownScheme scheme) := by
  have isCut : cut? "://".toList (scheme ++ "://" ++ rest).toList = some (scheme.toList, rest.toList) := by
    rw [String.toList_append, String.toList_append, List.append_assoc]
    exact cut?_append_separator plain rest.toList
  simp only [parse, isCut, String.ofList_toList]

/-- A text never names a socket file without a name. -/
theorem ne_empty_of_parse {uri : String} (parsed : parse uri = .ok address) :
    address ≠ .localSocket "" := by
  intro isEmpty
  subst isEmpty
  unfold parse at parsed
  split at parsed
  · cases parsed
  · next written rest isCut =>
      have isLocal {endpoint : Except AddressError Endpoint}
          {wrap : Endpoint → ServerAddress} (wrapped : endpoint.map wrap = .ok (.localSocket "")) :
          ∃ inner, wrap inner = .localSocket "" := by
        cases endpoint with
        | error fault => cases wrapped
        | ok inner => exact ⟨inner, Except.ok.inj wrapped⟩
      dsimp only at parsed
      split_ifs at parsed with isTcp isSsl isLocalScheme isEmpty
      · obtain ⟨inner, same⟩ := isLocal parsed
        cases same
      · obtain ⟨inner, same⟩ := isLocal parsed
        cases same
      · have sameName : String.ofList rest = "" :=
          ServerAddress.localSocket.inj (Except.ok.inj parsed)
        rw [sameName] at isEmpty
        exact isEmpty rfl

/-- Every address that a text can name is named by its own text. -/
theorem parse_text (proper : address ≠ .localSocket "") : parse address.text = .ok address := by
  match address with
  | .tcp endpoint =>
      have isTcp := parse_of_scheme "tcp" (by decide) endpoint.text
      rw [endpoint.parse_text] at isTcp
      exact isTcp
  | .ssl endpoint =>
      have isSsl := parse_of_scheme "ssl" (by decide) endpoint.text
      rw [endpoint.parse_text] at isSsl
      exact isSsl
  | .localSocket name =>
      have shown : name.isEmpty = false := by
        have nonempty : name ≠ "" := fun isEmpty => proper (congrArg ServerAddress.localSocket isEmpty)
        simpa using nonempty
      have isLocal := parse_of_scheme "local" (by decide) name
      simp only [shown] at isLocal
      exact isLocal

/-- Exactly the addresses other than a socket file without a name are named by a text, and each of them
has a canonical text. -/
theorem canonicalText_of_parse (address : ServerAddress) :
    (address ≠ .localSocket "" ↔ ∃ uri, parse uri = .ok address) ∧
      ∀ uri, parse uri = .ok address → CanonicalText address := by
  refine ⟨⟨fun proper => ⟨address.text, parse_text proper⟩,
    fun ⟨_, parsed⟩ => ne_empty_of_parse parsed⟩, ?_⟩
  intro uri parsed
  have parsedBack : parse address.text = .ok address := parse_text (ne_empty_of_parse parsed)
  refine ⟨parsedBack, ?_, ?_⟩
  · intro endpoint isEndpoint
    have isRest : address.rest = endpoint.text := by
      rcases isEndpoint with rfl | rfl <;> rfl
    have shown : endpoint.Shown endpoint.text.toList := by
      simpa [Endpoint.text] using endpoint.shown_render
    rw [isRest]
    exact ⟨endpoint.parse_text, shown⟩
  · intro otherUri other otherParsed
    have otherParsedBack : parse other.text = .ok other := parse_text (ne_empty_of_parse otherParsed)
    refine ⟨fun same => congrArg text same, ?_⟩
    intro sameText
    rw [sameText, otherParsedBack] at parsedBack
    exact (Except.ok.inj parsedBack).symm

private def shownInner : Ipv6 where
  groups := [0, 0, 0, 0, 0, 0xffff, 0xc000, 0x0201]
  eight_groups := rfl

/-- A long spelling of an encrypted endpoint, and the canonical one. -/
theorem canonicalText_of_long_spelling :
    parse "TLS://[0:0::0:FFFF:192.0.2.1%007]:0443" = .ok (.ssl (.v6 shownInner 7 443)) ∧
      (ServerAddress.ssl (.v6 shownInner 7 443)).text = "ssl://[::ffff:192.0.2.1%7]:443" ∧
      CanonicalText (.ssl (.v6 shownInner 7 443)) := by
  have parsed : parse "TLS://[0:0::0:FFFF:192.0.2.1%007]:0443" = .ok (.ssl (.v6 shownInner 7 443)) := by
    decide
  refine ⟨parsed, by decide, ?_⟩
  exact (canonicalText_of_parse (.ssl (.v6 shownInner 7 443))).2 _ parsed

end ServerAddress

end ConnectionPool
