import ConsumerConnector.Proofs.Credential.Replay
import ConsumerConnector.Proofs.Json.Record
import ConsumerConnector.Proofs.Json.RoundTrip

/-!
What a token says is what was written into it, whatever its header and its end are and however its middle
part is padded. So a credential with the token is good for use up to the second that its claims name, and
never again after.
-/

namespace ConsumerConnector.Credential

open Json (Tree)

namespace Claims

/-- The fields of claims, in the order of the claims. -/
def fields (c : Claims) : List (String × Json) :=
  [("exp", .ofInt c.expiry), ("cid", .string c.contract), ("dad", .string c.address)]

theorem ofTree?_object {c : Claims} (h : c.expiry < (Decimal.wordSize 63 : Nat))
    {fields : List (String × Json)} (hfields : fields.Perm c.fields) :
    ofTree? (Json.object fields).toTree = some c := by
  have hnames : ∀ f ∈ fields, f.1 ∈ ["exp", "cid", "dad"] := by
    intro f hf
    have hmem := hfields.mem_iff.1 hf
    simp only [Claims.fields, List.mem_cons, List.not_mem_nil, or_false] at hmem
    rcases hmem with rfl | rfl | rfl <;> simp
  have hnodup : (fields.map Prod.fst).Nodup :=
    (hfields.map Prod.fst).nodup_iff.2 (by simp [Claims.fields])
  have hlookup : ∀ (key : String) (value : Json), (key, value) ∈ c.fields →
      (fields.map fun f => (f.1, f.2.toTree)).lookup key = some value.toTree := by
    intro key value hmem
    refine Json.lookup_of_nodup ?_ (List.mem_map.2 ⟨_, hfields.mem_iff.2 hmem, rfl⟩)
    rwa [List.map_map]
  have hexpiry := hlookup "exp" (.ofInt c.expiry) (by simp [Claims.fields])
  have hcontract := hlookup "cid" (.string c.contract) (by simp [Claims.fields])
  have haddress := hlookup "dad" (.string c.address) (by simp [Claims.fields])
  have hint : (Json.ofInt c.expiry).toTree.int? = some c.expiry := if_pos h
  rw [ofTree?, Json.record?_object hnames hnodup]
  simp only [Option.bind_eq_bind, Option.bind_some, Tree.Record.required, Tree.Record.withDefault, hexpiry,
    hcontract, haddress, hint]
  rfl

/-- The second part of a token that carries a text. -/
def payload (text : String) : List Char := Text.Base64.encode .urlSafe text.toUTF8.data.toList

/-- A token that carries a text, with some padding. -/
def token (header text : String) (padding : Nat) (trailing : String) : String :=
  String.ofList (header.toList ++ '.' :: (payload text ++ List.replicate padding '=' ++
    '.' :: trailing.toList))

theorem not_mem_payload (text : String) {c : Char} (hc : Text.Base64.Alphabet.urlSafe.digit? c = none) :
    c ∉ payload text :=
  fun hmem => Text.Base64.ne_of_mem_encode hmem hc rfl

theorem dropWhile_padding {c : Char} {cs : List Char} (h : c ∉ cs) (n : Nat) :
    ((cs ++ List.replicate n c).reverse.dropWhile (· == c)).reverse = cs := by
  rw [List.reverse_append, List.reverse_replicate, List.dropWhile_append_of_pos (by simp)]
  have hkept : cs.reverse.dropWhile (· == c) = cs.reverse := by
    cases hcs : cs.reverse with
    | nil => rfl
    | cons d ds =>
      have hd : d ≠ c := by
        rintro rfl
        exact h (List.mem_reverse.1 (by simp [hcs]))
      rw [List.dropWhile_cons_of_neg (by simpa using hd)]
  rw [hkept, List.reverse_reverse]

/-- A token is read as the text that it carries. -/
theorem ofToken?_token {header : String} (hheader : '.' ∉ header.toList) (text : String) (padding : Nat)
    (trailing : String) :
    ofToken? (token header text padding trailing) = (Tree.ofText? text).bind ofTree? := by
  have hpayload : '.' ∉ payload text ++ List.replicate padding '=' := by
    rw [List.mem_append, not_or]
    exact ⟨not_mem_payload text rfl, by simp⟩
  have hpieces : (Text.pieces '.' (token header text padding trailing).toList)[1]? =
      some (payload text ++ List.replicate padding '=') := by
    rw [token, String.toList_ofList, Text.pieces_append hheader, Text.pieces_append hpayload]
    rfl
  have hdecode : Text.Base64.decode .urlSafe (payload text) = some text.toUTF8.data.toList :=
    Text.Base64.decode_encode ..
  have hbytes : (⟨text.toUTF8.data.toList.toArray⟩ : ByteArray) = text.toUTF8 := by simp
  have hdigits := dropWhile_padding (not_mem_payload text (c := '=') rfl) padding
  simp only [ofToken?, hpieces, hdigits, hdecode, hbytes, Json.Tree.ofBytes?_toUTF8, Option.bind_eq_bind,
    Option.bind_some]

theorem bounded_object {c : Claims} (hlow : -(Decimal.wordSize 63 : Nat) ≤ c.expiry)
    (hhigh : c.expiry < (Decimal.wordSize 63 : Nat)) {fields : List (String × Json)}
    (hfields : fields.Perm c.fields) : Json.Bounded Tree.maxDepth (.object fields) := by
  have hword : Json.IsWord c.expiry := ⟨hlow, Int.lt_trans hhigh (by decide)⟩
  refine .object fun f hf => ?_
  have hmem := hfields.mem_iff.1 hf
  simp only [Claims.fields, List.mem_cons, List.not_mem_nil, or_false] at hmem
  rcases hmem with rfl | rfl | rfl
  · exact .integer hword
  · exact .string _
  · exact .string _

theorem entries_perm (c : Claims) : (Dictionary.ofList c.fields).entries.Perm c.fields :=
  Dictionary.entries_ofList_perm (by simp [fields])

end Claims

variable {c : Credential} {claims : Claims} {cache : Cache} {key : String} {now later : Timestamp}

theorem unexpired_iff (h : c.claims? = some claims) :
    c.Unexpired now ↔ now.instant < claims.expiry * Timestamp.second := by
  have hinstant : (Timestamp.ofUnix claims.expiry).instant = claims.expiry * Timestamp.second := by
    simp [Timestamp.ofUnix, Timestamp.instant]
  simp [Unexpired, h, Timestamp.isAfter, hinstant]

theorem Cache.classify_of_claims (hget : cache.get? key = some c) (h : c.claims? = some claims)
    (now : Timestamp) : cache.classify key now =
      if now.instant < claims.expiry * Timestamp.second then .valid c else .expired c := by
  split
  · next hbefore => exact classify_eq_valid.2 ⟨hget, (unexpired_iff h).2 hbefore⟩
  · next hbefore =>
    have hcode : c.authCode ≠ none := by
      rintro hnone
      rw [claims?, hnone] at h
      cases h
    exact classify_eq_expired.2 ⟨hget, hcode, mt (unexpired_iff h).1 hbefore⟩

/-- Any token that carries the text of some claims, their fields in whatever order, is read as these claims.
A cached credential with the token is valid up to the second that the claims name and expired from then on,
and once it is not valid no credential with the token ever is. -/
theorem token_tells_claims (hlow : -(Decimal.wordSize 63 : Nat) ≤ claims.expiry)
    (hhigh : claims.expiry < (Decimal.wordSize 63 : Nat)) {header : String}
    (hheader : '.' ∉ header.toList) {fields : List (String × Json)} (hfields : fields.Perm claims.fields)
    (padding : Nat) (trailing : String) :
    let token := Claims.token header (Json.object fields).render padding trailing
    Claims.ofToken? token = some claims ∧
      ∀ (cache : Cache) (key : String) (c : Credential), cache.get? key = some c → c.authCode = some token →
        (∀ now : Timestamp, now.instant < claims.expiry * Timestamp.second →
          cache.classify key now = .valid c) ∧
        (∀ now : Timestamp, claims.expiry * Timestamp.second ≤ now.instant →
          cache.classify key now = .expired c) ∧
        ∀ now later : Timestamp, now.instant ≤ later.instant → cache.classify key now ≠ .valid c →
          ∀ (cache' : Cache) (key' : String) (c' : Credential), cache'.get? key' = some c' →
            c'.authCode = some token → cache'.classify key' later = .expired c' := by
  intro token
  have hread : Claims.ofToken? token = some claims := by
    have hbounded := Claims.bounded_object hlow hhigh hfields
    rw [Claims.ofToken?_token hheader, Json.Tree.ofText?_render hbounded, Option.bind_some,
      Claims.ofTree?_object hhigh hfields]
  have hclaims : ∀ c : Credential, c.authCode = some token → c.claims? = some claims := by
    intro c hcode
    rw [claims?, hcode, Option.bind_some, hread]
  refine ⟨hread, fun cache key c hget hcode => ?_⟩
  have hclassify := Cache.classify_of_claims hget (hclaims c hcode)
  refine ⟨fun now hbefore => ?_, fun now hafter => ?_, ?_⟩
  · rw [hclassify, if_pos hbefore]
  · rw [hclassify, if_neg (Int.not_lt.2 hafter)]
  · intro now later hle hnow cache' key' c' hget' hcode'
    have hafter : claims.expiry * Timestamp.second ≤ now.instant := by
      rw [hclassify] at hnow
      exact Int.not_lt.1 fun hbefore => hnow (if_pos hbefore)
    rw [Cache.classify_of_claims hget' (hclaims c' hcode'),
      if_neg (Int.not_lt.2 (Int.le_trans hafter hle))]

/-- Claims whose texts are written with escapes. -/
def escaped : Claims := ⟨1700000000, "contract \"7\"\n", "straße\x01"⟩

def sealedToken : String := Claims.token "header" escaped.toJson.render 2 "signature.and more"

def sealedCredential : Credential :=
  ⟨"id", "contract", "https://data.example", "Authorization", some sealedToken, ∅⟩

theorem token_tells_claims_escaped :
    Claims.ofToken? sealedToken = some escaped ∧
      ((Cache.empty 10).put "asset" sealedCredential 0).classify "asset" ⟨1699999999999999999, 0⟩ =
        .valid sealedCredential ∧
      ((Cache.empty 10).put "asset" sealedCredential 0).classify "asset" (.ofUnix 1700000000) =
        .expired sealedCredential := by
  have hlow : -(Decimal.wordSize 63 : Nat) ≤ escaped.expiry := by decide
  have hhigh : escaped.expiry < (Decimal.wordSize 63 : Nat) := by decide
  have hheader : '.' ∉ "header".toList := by decide
  obtain ⟨hread, hcached⟩ :=
    token_tells_claims hlow hhigh hheader escaped.entries_perm 2 "signature.and more"
  obtain ⟨hvalid, hexpired, -⟩ := hcached _ "asset" sealedCredential (Cache.get?_put_self ..) rfl
  exact ⟨hread, hvalid _ (by decide), hexpired _ (by decide)⟩

end ConsumerConnector.Credential
