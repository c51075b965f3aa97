import FormEngine.Proofs.Document.Forest
import FormEngine.Proofs.Document.Reading
import FormEngine.Proofs.Json.RoundTrip
import FormEngine.Proofs.Outcome
import FormEngine.Proofs.Text.Base64Url
import FormEngine.Token
import Mathlib.Data.List.TakeWhile
/-!
# Tokens give back their documents

A forest that its JSON form can hold survives the way through a token: the payload is cut off at
the full stop, which base64 does not use, the signature is the one that the same password makes,
and the payload reads back as the document it was written from.
-/

namespace FormEngine.Token

/-! ## Cutting -/

theorem ne_stop_of_mem_encode {bytes : List UInt8} {c : Char}
    (h : c ∈ Text.Base64Url.encode bytes) : (c != '.') = true :=
  bne_iff_ne.2 (Text.Base64Url.isSymbol_of_mem_encode h).ne_stop

/-- A text in base64 has nothing to be cut off. -/
theorem split?_encode (bytes : List UInt8) :
    split? (String.ofList (Text.Base64Url.encode bytes)) = none := by
  have hdrop : (Text.Base64Url.encode bytes).dropWhile (· != '.') = [] :=
    List.dropWhile_eq_nil_iff.2 fun c hc => ne_stop_of_mem_encode hc
  simp [split?, String.toList_ofList, hdrop]

/-- A signed text is cut at the full stop before the signature. -/
theorem split?_signed (bytes : List UInt8) (signature : String) :
    split? (String.ofList (Text.Base64Url.encode bytes) ++ "." ++ signature) =
      some (String.ofList (Text.Base64Url.encode bytes), signature) := by
  have hclean : ∀ c ∈ Text.Base64Url.encode bytes, (c != '.') = true :=
    fun c hc => ne_stop_of_mem_encode hc
  have htext : (String.ofList (Text.Base64Url.encode bytes) ++ "." ++ signature).toList =
      Text.Base64Url.encode bytes ++ '.' :: signature.toList := by
    simp [String.toList_append]
  rw [split?, htext]
  simp [List.dropWhile_append_of_pos hclean, List.takeWhile_append_of_pos hclean]

theorem encode_none (d : Document) : encode d none = payload d := rfl

theorem encode_some (d : Document) (password : String) :
    encode d (some password) = payload d ++ "." ++ signature password (payload d) := rfl

theorem split?_payload (d : Document) : split? (payload d) = none := by
  rw [payload, split?_encode]

theorem split?_encode_some (d : Document) (password : String) :
    split? (encode d (some password)) = some (payload d, signature password (payload d)) := by
  rw [encode_some, payload, split?_signed]

/-! ## Signing -/

/-- A signature is accepted under the password that made it. -/
theorem verifySignature_signature (password payload : String) :
    verifySignature password payload (signature password payload) = .ok () := by
  have hread : Text.Base64Url.decode (signature password payload).toList =
      some (Digest.hmacSha256 (bytes password) (bytes payload)) := by
    rw [signature, String.toList_ofList, Text.Base64Url.decode_encode]
  rw [verifySignature, hread]
  exact if_pos rfl

/-- A token that was signed is accepted under its password. -/
theorem verify_encode (d : Document) (password : String) :
    verify (encode d (some password)) password = .ok () := by
  rw [verify, split?_encode_some]
  exact verifySignature_signature password _

/-! ## Reading -/

/-- A document as a token can carry it. -/
structure Carries (d : Document) : Prop where
  forest : d.IsForest
  portable : d.Portable

theorem readDocument_write {d : Document} (h : Carries d) :
    readDocument (Json.write d.toJson) = .ok d := by
  have hread := Json.read?_write (Document.isStrict_toJson h.portable) Json.endsNumber_nil
  rw [List.append_nil] at hread
  simp [readDocument, hread, Document.ofJson?_toJson h.portable,
    Document.check_eq_ok_iff.2 h.forest, Json.skipBlanks]

theorem readPayload_payload {d : Document} (h : Carries d) : readPayload (payload d) = .ok d := by
  rw [readPayload, payload, String.toList_ofList, Text.Base64Url.trimList_encode,
    Text.Base64Url.decode_encode]
  exact readDocument_write h

/-- A signed token is read in two steps. -/
theorem decode_signed {token payload signature : String} (h : split? token = some (payload, signature))
    {password : String} (hverify : verifySignature password payload signature = .ok ()) :
    decode token (some password) = readPayload payload := by
  simp only [decode, h, hverify]
  rfl

/-- **A token reads back as its document** under the password, or the lack of one, that it was
made with. -/
theorem decode_encode {d : Document} (h : Carries d) (password : Option String) :
    decode (encode d password) password = .ok d := by
  cases password with
  | none => simp only [decode, encode_none, split?_payload, readPayload_payload h]
  | some password =>
    rw [decode_signed (split?_encode_some d password) (verifySignature_signature _ _),
      readPayload_payload h]

/-! ## Documents that were read -/

/-- A document that was read can be carried by a token. -/
theorem carries_of_readDocument {text : List UInt8} {d : Document} (h : readDocument text = .ok d) :
    Carries d := by
  unfold readDocument at h
  split at h
  · contradiction
  · split at h
    · contradiction
    · rename_i read hread
      split at h
      · contradiction
      · rename_i hcheck
        split at h
        · obtain rfl := Except.ok.inj h
          exact ⟨Document.check_eq_ok_iff.1 hcheck, Document.portable_of_ofJson? hread⟩
        · contradiction

/-- **A token gives back the document that it was made of**, under the same password or the same
lack of one: every node with its kind, names, attributes, parent and children, the root and the
namespaces, all in their order, and whatever the texts say. The document has to pass the arena check;
its addresses have thirty-two bits and its namespaces are a map. A document that was read from a text
has all this, so it needs no condition. -/
theorem decode_encode_of_accepted (d : Document) (password : Option String) :
    (d.check = .ok () → d.Portable → decode (encode d password) password = .ok d) ∧
      ∀ text, readDocument text = .ok d → decode (encode d password) password = .ok d := by
  constructor
  · intro hcheck hportable
    exact decode_encode ⟨Document.check_eq_ok_iff.1 hcheck, hportable⟩ password
  · intro text hread
    exact decode_encode (carries_of_readDocument hread) password

/-- A small document with a prefix, attributes that share a name, and texts that have to be
escaped. -/
def greeting : Document :=
  { nodes :=
      #[{ kind := .element { nsPrefix := "xf", uri := Namespace.xforms, localName := "group" }
            [⟨.plain "id", "a.b"⟩, ⟨.plain "id", "\"\\\t\u0001"⟩]
          children := [1] },
        { kind := .text "Grüße 😀\n", parent := some 0 },
        { kind := .element (.plain "") [] }]
    root := 0
    namespaces := [("xf", Namespace.xforms), ("", "")] }

theorem decode_encode_of_accepted_greeting :
    greeting.check = .ok () ∧ greeting.Portable ∧
      readDocument (Json.write greeting.toJson) = .ok greeting ∧
      decode (encode greeting (some "secret")) (some "secret") = .ok greeting ∧
      decode (encode greeting none) none = .ok greeting := by
  have hcheck : greeting.check = .ok () := by decide
  have hforest := Document.check_eq_ok_iff.1 hcheck
  have hportable : greeting.Portable := hforest.portable (by decide) (by decide)
  have hread := readDocument_write ⟨hforest, hportable⟩
  exact ⟨hcheck, hportable, hread,
    (decode_encode_of_accepted greeting (some "secret")).1 hcheck hportable,
    (decode_encode_of_accepted greeting none).2 _ hread⟩

/-! ## What a signature stands before -/

/-- A token up to its first full stop. -/
def beforeStop (token : String) : String :=
  String.ofList (token.toList.takeWhile (· != '.'))

/-- What stands before the first full stop has none to be cut at. -/
theorem split?_beforeStop (token : String) : split? (beforeStop token) = none := by
  have hclean : (token.toList.takeWhile (· != '.')).dropWhile (· != '.') = [] :=
    List.dropWhile_eq_nil_iff.2 fun _ hc => (List.mem_takeWhile_imp hc :)
  simp [split?, beforeStop, String.toList_ofList, hclean]

/-- The payload of a cut token stands before its first full stop. -/
theorem payload_of_split? {token payload signature : String}
    (h : split? token = some (payload, signature)) : payload = beforeStop token := by
  unfold split? at h
  dsimp only at h
  split at h
  · contradiction
  · exact (congrArg Prod.fst (Option.some.inj h)).symm

/-- Without a password a token is read as it is. -/
theorem decode_none_of_uncut {token : String} (h : split? token = none) :
    decode token none = readPayload token := by
  simp only [decode, h]

/-- Verification has one fault. -/
theorem verify_eq_error {token password : String} {e : TokenError}
    (h : verify token password = .error e) : e = .badSignature := by
  unfold verify at h
  split at h
  · exact (Except.error.inj h).symm
  · unfold verifySignature at h
    split at h
    · exact (Except.error.inj h).symm
    · split at h
      · contradiction
      · exact (Except.error.inj h).symm

/-- Under a password the token is verified, and what is read then is the payload alone. -/
theorem decode_some_eq (token password : String) :
    decode token (some password) =
      verify token password >>= fun _ => decode (beforeStop token) none := by
  rw [decode_none_of_uncut (split?_beforeStop token)]
  cases hsplit : split? token with
  | none => simp only [decode, verify, hsplit]; rfl
  | some parts =>
    obtain ⟨payload, signature⟩ := parts
    simp only [decode, verify, hsplit]
    rw [payload_of_split? hsplit]

/-- A token that is not verified is refused with the one fault of verification. -/
theorem decode_of_unsigned {token password : String} (h : verify token password ≠ .ok ()) :
    decode token (some password) = .error .badSignature := by
  rw [decode_some_eq]
  cases hverify : verify token password with
  | ok => exact absurd hverify h
  | error e =>
    rw [verify_eq_error hverify]
    rfl

/-- **A signature stands before the payload.** Under a password a token is read exactly if it is
verified and the part before its first full stop can be read without one, and what is read is the same
document. A token that is not verified is refused with the fault of its verification. Which one it is
makes no difference: any two tokens that are not verified are refused alike, whatever their payloads
are, so the answer tells nothing about a payload that was not signed under the password. -/
theorem reads_signed_only (token password : String) :
    (∀ d, decode token (some password) = .ok d ↔
      verify token password = .ok () ∧ decode (beforeStop token) none = .ok d) ∧
    (∀ e, verify token password = .error e → decode token (some password) = .error e) ∧
    ∀ other, verify token password ≠ .ok () → verify other password ≠ .ok () →
      decode token (some password) = decode other (some password) := by
  refine ⟨fun d => ⟨fun h => ?_, fun ⟨hverify, hread⟩ => ?_⟩, fun e he => ?_,
    fun other hunsigned hother => ?_⟩
  · rw [decode_some_eq] at h
    obtain ⟨⟨⟩, hverify, hread⟩ := ok_of_bind h
    exact ⟨hverify, hread⟩
  · rw [decode_some_eq, hverify]
    exact hread
  · rw [decode_some_eq, he]
    rfl
  · rw [decode_of_unsigned hunsigned, decode_of_unsigned hother]

/-- The payload of the first token is no base64, and that of the second is the JSON text of an empty
object. Neither signature is one: the first has a full stop in it, and the second is of other bytes. -/
theorem reads_signed_only_unsigned :
    verify "?.e30.e30" "secret" = .error .badSignature ∧
      verify "e30.e30" "secret" ≠ .ok () ∧
      decode "?.e30.e30" (some "secret") = .error .badSignature ∧
      decode "?.e30.e30" (some "secret") = decode "e30.e30" (some "secret") := by
  have hfirst : verify "?.e30.e30" "secret" = .error .badSignature := by decide
  have hsecond : verify "e30.e30" "secret" ≠ .ok () := by decide +kernel
  obtain ⟨-, hrefused, halike⟩ := reads_signed_only "?.e30.e30" "secret"
  refine ⟨hfirst, hsecond, hrefused _ hfirst, halike _ ?_ hsecond⟩
  rw [hfirst]
  exact nofun

end FormEngine.Token
