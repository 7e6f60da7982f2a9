import ConsumerConnector.Credential.Delivery

/-!
What comes of a delivered body. Either nothing of it reaches the cache, or the whole credential does.
A text is looked for under three spellings of its key; an empty one under an earlier spelling hides
what the later ones hold.
-/

namespace ConsumerConnector.Credential

/-- What a credential has at least, and at most, when it was read from a delivered body. -/
structure WellFormed (c : Credential) : Prop where
  contract : c.contract ≠ ""
  endpoint : c.endpoint ≠ ""
  authCode : c.authCode ≠ some ""
  properties : ∀ key ∈ c.properties.keys, key ∉ Callback.consumed

namespace Callback

variable {fields : Fields} {key value : String} {envelope : Json}

/-- The texts under the spellings of a key, in the order in which they are looked at. -/
def held (fields : Fields) (key : String) : List String :=
  [key, shortSpace ++ key, nameSpace ++ key].filterMap fun spelling =>
    (Json.field? fields spelling).bind Json.string?

/-- A text that is of use is held under one of the spellings of a key. -/
def Names (fields : Fields) (key value : String) : Prop :=
  value ∈ held fields key ∧ value ≠ ""

/-- The first text under the spellings of a key is empty. -/
def Shadowed (fields : Fields) (key : String) : Prop :=
  (held fields key).head? = some ""

instance (fields : Fields) (key value : String) : Decidable (Names fields key value) :=
  inferInstanceAs (Decidable (_ ∧ _))

instance (fields : Fields) (key : String) : Decidable (Shadowed fields key) :=
  inferInstanceAs (Decidable (_ = _))

theorem text?_eq_filter (fields : Fields) (key : String) :
    text? fields key = (held fields key).head?.filter (· ≠ "") := by
  rw [held, List.head?_filterMap, text?]
  cases List.findSome? _ _ with
  | none => rfl
  | some s => by_cases hs : s = "" <;> simp [hs, Option.filter]

theorem text?_eq_some :
    text? fields key = some value ↔ (held fields key).head? = some value ∧ value ≠ "" := by
  simp [text?_eq_filter, Option.filter_eq_some_iff]

theorem names_of_text? (h : text? fields key = some value) : Names fields key value :=
  ⟨List.mem_of_head? (text?_eq_some.1 h).1, (text?_eq_some.1 h).2⟩

theorem Shadowed.text? (h : Shadowed fields key) : text? fields key = none := by
  rw [text?_eq_filter, h]
  rfl

/-- A text that is held under some spelling is not found only where an empty one hides it. -/
theorem Names.text? (h : Names fields key value) (hshadowed : ¬ Shadowed fields key) :
    ∃ v, text? fields key = some v := by
  cases hhead : (held fields key).head? with
  | none => simp [Names, List.head?_eq_none_iff.1 hhead] at h
  | some v =>
    refine ⟨v, text?_eq_some.2 ⟨hhead, ?_⟩⟩
    rintro rfl
    exact hshadowed hhead

theorem text?_ne_empty (fields : Fields) (key : String) : text? fields key ≠ some "" :=
  fun h => (names_of_text? h).2 rfl

theorem orElse_ne_empty {a b : Option String} (ha : a ≠ some "") (hb : b ≠ some "") :
    (a <|> b) ≠ some "" := by
  cases a with
  | none => exact hb
  | some s => exact ha

theorem bind_text?_ne_empty (nested : Option Fields) (key : String) :
    nested.bind (text? · key) ≠ some "" := by
  cases nested with
  | none => nofun
  | some fields => exact text?_ne_empty fields key

theorem not_consumed_of_mem_keys (h : key ∈ (properties fields).keys) : key ∉ consumed := by
  obtain ⟨e, he, rfl⟩ := List.mem_map.1 h
  obtain ⟨⟨k, v⟩, -, hkept⟩ := List.mem_filterMap.1 (Dictionary.mem_of_mem_ofList he)
  dsimp only at hkept
  split at hkept
  · cases hkept
  · next hk =>
    obtain ⟨_, -, rfl⟩ := Option.map_eq_some_iff.1 hkept
    exact hk

theorem ne_empty_of_eq_some {o : Option String} (h : o = some value) (ho : o ≠ some "") :
    value ≠ "" :=
  fun hempty => ho (hempty ▸ h)

/-- The contract of a data address, by its own key or an older one. -/
def contractOfAddress? (fields : Fields) : Option String :=
  text? fields "agreement_id" <|> text? fields "contractId"

def nested? (fields : Fields) : Option Fields :=
  (Json.field? fields "properties").bind Json.object?

/-- The contract of the older layout. -/
def contractOfObject? (fields : Fields) : Option String :=
  (nested? fields).bind (text? · "cid") <|> text? fields "contractId" <|>
    (nested? fields).bind (text? · "contractId")

def address? (envelope : Json) : Option Fields :=
  (envelope.at? ["payload", "dataAddress", "properties"]).bind Json.object?

/-- The contract that an envelope is for, if it says so. -/
def contract? (envelope : Json) : Option String :=
  (address? envelope).elim (envelope.object?.bind contractOfObject?) contractOfAddress?

def endpoint? (envelope : Json) : Option String :=
  ((address? envelope).or envelope.object?).bind (text? · "endpoint")

theorem contractOfAddress?_ne_empty (fields : Fields) : contractOfAddress? fields ≠ some "" :=
  orElse_ne_empty (text?_ne_empty _ _) (text?_ne_empty _ _)

theorem contractOfObject?_ne_empty (fields : Fields) : contractOfObject? fields ≠ some "" :=
  orElse_ne_empty (bind_text?_ne_empty _ _)
    (orElse_ne_empty (text?_ne_empty _ _) (bind_text?_ne_empty _ _))

/-- A data address is read unless the contract or the endpoint is missing. -/
theorem ofAddress_cases (fields : Fields) (envelope : Json) :
    ((contractOfAddress? fields = none ∨ text? fields "endpoint" = none) ∧
        ∃ field, ofAddress fields envelope = .error (missing field)) ∨
      ∃ c, ofAddress fields envelope = .ok c ∧ contractOfAddress? fields = some c.contract ∧
        text? fields "endpoint" = some c.endpoint ∧ c.WellFormed := by
  unfold ofAddress
  cases hcontract : (text? fields "agreement_id" <|> text? fields "contractId") with
  | none => exact .inl ⟨.inl hcontract, _, rfl⟩
  | some contract =>
    cases hendpoint : text? fields "endpoint" with
    | none => exact .inl ⟨.inr rfl, _, rfl⟩
    | some endpoint =>
      refine .inr ⟨_, rfl, hcontract, rfl, ?_⟩
      constructor
      case contract => exact ne_empty_of_eq_some hcontract (contractOfAddress?_ne_empty fields)
      case endpoint => exact ne_empty_of_eq_some hendpoint (text?_ne_empty _ _)
      case authCode => exact orElse_ne_empty (text?_ne_empty _ _) (text?_ne_empty _ _)
      case properties => exact fun _ => not_consumed_of_mem_keys

/-- The older layout is read under the same condition. -/
theorem ofObject_cases (fields : Fields) :
    ((contractOfObject? fields = none ∨ text? fields "endpoint" = none) ∧
        ∃ field, ofObject fields = .error (missing field)) ∨
      ∃ c, ofObject fields = .ok c ∧ contractOfObject? fields = some c.contract ∧
        text? fields "endpoint" = some c.endpoint ∧ c.WellFormed := by
  unfold ofObject
  extract_lets nested
  cases hcontract : (nested.bind (text? · "cid") <|> text? fields "contractId" <|>
    nested.bind (text? · "contractId")) with
  | none => exact .inl ⟨.inl hcontract, _, rfl⟩
  | some contract =>
    cases hendpoint : text? fields "endpoint" with
    | none => exact .inl ⟨.inr rfl, _, rfl⟩
    | some endpoint =>
      refine .inr ⟨_, rfl, hcontract, rfl, ?_⟩
      constructor
      case contract => exact ne_empty_of_eq_some hcontract (contractOfObject?_ne_empty fields)
      case endpoint => exact ne_empty_of_eq_some hendpoint (text?_ne_empty _ _)
      case authCode => exact text?_ne_empty _ _
      case properties =>
        cases nested with
        | none => nofun
        | some fields => exact fun _ => not_consumed_of_mem_keys

theorem parse_cases (envelope : Json) :
    ((contract? envelope = none ∨ endpoint? envelope = none) ∧
        ∃ message, parse envelope = .error (.client message)) ∨
      ∃ c, parse envelope = .ok c ∧ contract? envelope = some c.contract ∧
        endpoint? envelope = some c.endpoint ∧ c.WellFormed := by
  unfold parse contract? endpoint? address?
  cases (envelope.at? ["payload", "dataAddress", "properties"]).bind Json.object? with
  | some fields =>
    obtain ⟨hnone, _, he⟩ | hc := ofAddress_cases fields envelope
    · exact .inl ⟨hnone, _, he⟩
    · exact .inr hc
  | none =>
    cases envelope.object? with
    | none => exact .inl ⟨.inl rfl, _, rfl⟩
    | some fields =>
      obtain ⟨hnone, _, he⟩ | hc := ofObject_cases fields
      · exact .inl ⟨hnone, _, he⟩
      · exact .inr hc

/-- A delivered body is refused, since it is no JSON or names no contract or no endpoint, and the cache
stays as it was. Or the whole credential is stored under its contract, where it is found even if the
cache keeps nothing any time. -/
theorem handle_whole_or_nothing (cache : Cache) (body : ByteArray) (now : Nat) :
    match handle cache body now with
    | (.error e, after) => after = cache ∧ (∃ message, e = .client message) ∧
        ∀ envelope, Json.ofBytes? body = some envelope →
          contract? envelope = none ∨ endpoint? envelope = none
    | (.ok id, after) => ∃ envelope c, Json.ofBytes? body = some envelope ∧
        parse envelope = .ok c ∧ id = c.contract ∧ contract? envelope = some c.contract ∧
        endpoint? envelope = some c.endpoint ∧ c.WellFormed ∧
        after = cache.put id c now ∧ after.get? id = some c := by
  unfold handle read
  cases hbody : Json.ofBytes? body with
  | none => exact ⟨rfl, ⟨_, rfl⟩, nofun⟩
  | some envelope =>
    dsimp only
    obtain ⟨hnone, message, he⟩ | ⟨c, hc, hcontract, hendpoint, hformed⟩ := parse_cases envelope
    · rw [he]
      refine ⟨rfl, ⟨message, rfl⟩, ?_⟩
      rintro _ ⟨⟩
      exact hnone
    · rw [hc]
      exact ⟨envelope, c, rfl, hc, rfl, hcontract, hendpoint, hformed, rfl, cache.get?_put_self ..⟩

/-- A contract that is hidden is found all the same if the older key holds one of its texts. -/
theorem exists_contractOfAddress? (h : ∃ v, Names fields "agreement_id" v)
    (hother : Shadowed fields "agreement_id" →
      ∃ v, text? fields "contractId" = some v ∧ Names fields "agreement_id" v) :
    ∃ v, contractOfAddress? fields = some v ∧ Names fields "agreement_id" v := by
  unfold contractOfAddress?
  by_cases hs : Shadowed fields "agreement_id"
  · obtain ⟨v, hv, hnames⟩ := hother hs
    exact ⟨v, by rw [hs.text?]; exact hv, hnames⟩
  · obtain ⟨_, hnames⟩ := h
    obtain ⟨v, hv⟩ := hnames.text? hs
    exact ⟨v, by rw [hv]; rfl, names_of_text? hv⟩

theorem parse_address (h : address? envelope = some fields) :
    parse envelope = ofAddress fields envelope := by
  rw [address?] at h
  rw [parse, h]

/-- Where the contract and the endpoint are held under some spelling of their keys, an envelope is
read as naming them unless empty texts hide them. A hidden contract still comes out right if what is
held under the other key for contracts happens to be one of its texts. -/
theorem parse_names_iff (haddress : address? envelope = some fields)
    (hcontract : ∃ v, Names fields "agreement_id" v) (hendpoint : ∃ v, Names fields "endpoint" v) :
    (∃ c, parse envelope = .ok c ∧ Names fields "agreement_id" c.contract ∧
        Names fields "endpoint" c.endpoint) ↔
      ¬ Shadowed fields "endpoint" ∧ (Shadowed fields "agreement_id" →
        ∃ v, text? fields "contractId" = some v ∧ Names fields "agreement_id" v) := by
  rw [parse_address haddress]
  constructor
  · rintro ⟨c, hc, hnames, -⟩
    obtain ⟨-, _, he⟩ | ⟨d, hd, hfound, hend, -⟩ := ofAddress_cases fields envelope
    · cases hc.symm.trans he
    obtain rfl := Except.ok.inj (hc.symm.trans hd)
    refine ⟨fun hs => ?_, fun hs => ⟨c.contract, ?_, hnames⟩⟩
    · cases hs.text?.symm.trans hend
    · rwa [contractOfAddress?, hs.text?] at hfound
  · rintro ⟨hend, hother⟩
    obtain ⟨_, hv⟩ := hendpoint
    obtain ⟨v, hv⟩ := hv.text? hend
    obtain ⟨w, hw, hnames⟩ := exists_contractOfAddress? hcontract hother
    obtain ⟨hnone | hnone, -⟩ | ⟨c, hc, hfound, hend, -⟩ := ofAddress_cases fields envelope
    · cases hnone.symm.trans hw
    · cases hnone.symm.trans hv
    · obtain rfl := Option.some.inj (hw.symm.trans hfound)
      exact ⟨c, hc, hnames, names_of_text? hend⟩

/-- An envelope around a data address. -/
def enveloped (fields : Fields) : Json :=
  .object [("payload", .object [("dataAddress", .object [("properties", .object fields)])])]

/-- Values of other kinds under earlier spellings hide no text, and neither do empty texts under later
ones. -/
def mixed : Fields :=
  [("agreement_id", .null), ("edc:agreement_id", .string "contract"), ("edc:endpoint", .bool true),
    ("https://w3id.org/edc/v0.0.1/ns/agreement_id", .string ""),
    ("https://w3id.org/edc/v0.0.1/ns/endpoint", .string "https://data")]

theorem parse_names_iff_mixed :
    ∃ c, parse (enveloped mixed) = .ok c ∧ Names mixed "agreement_id" c.contract ∧
      Names mixed "endpoint" c.endpoint :=
  (parse_names_iff rfl ⟨"contract", by decide⟩ ⟨"https://data", by decide⟩).2
    ⟨by decide, fun h => absurd h (by decide)⟩

/-- An empty text under the short key of the contract, which the prefixed key holds. -/
def emptied (others : Fields) : Fields :=
  ("agreement_id", .string "") :: others ++
    [("edc:agreement_id", .string "contract"), ("endpoint", .string "https://data")]

/-- The contract is taken for missing, and with another one under the older key the credential is read
as being for that one. -/
theorem hidden_contract :
    (Names (emptied []) "agreement_id" "contract" ∧ Names (emptied []) "endpoint" "https://data" ∧
      parse (enveloped (emptied [])) = .error (missing "agreement_id")) ∧
    Names (emptied [("contractId", .string "other")]) "agreement_id" "contract" ∧
      Names (emptied [("contractId", .string "other")]) "endpoint" "https://data" ∧
      ¬ Names (emptied [("contractId", .string "other")]) "agreement_id" "other" ∧
      ∃ c, parse (enveloped (emptied [("contractId", .string "other")])) = .ok c ∧
        c.contract = "other" :=
  ⟨⟨by decide, by decide, rfl⟩, by decide, by decide, by decide, _, rfl, rfl⟩

end Callback

end ConsumerConnector.Credential
