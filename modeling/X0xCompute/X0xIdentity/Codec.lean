import X0xCompute.X0xIdentity
import X0xCompute.Lib.Utf8

/-!
# The identity codec

Which texts the identity parsers accept, and how the parsers and the encoders undo each
other, for a `hex` crate that encodes in lowercase and decodes digits of either case.
-/

namespace X0xCompute

variable {hex : HexCrate}

/-- The documented behaviour of `hex::decode`: it decodes exactly the texts of an even
number of digits of either case, two digits a byte, high digit first. -/
def HexCrate.DecodesHex (hex : HexCrate) : Prop :=
  ∀ value bs, hex.decode value = .ok bs ↔ Lib.hexBytes? value.toList = some bs

/-- Sixty-four hexadecimal digits of either case. -/
def IsIdText (value : String) : Prop :=
  value.toList.length = 64 ∧ ∀ c ∈ value.toList, Lib.IsHexDigit c

instance (value : String) : Decidable (IsIdText value) :=
  decidable_of_iff
    (value.toList.length = 64 ∧ value.toList.all (fun c => decide (Lib.IsHexDigit c)) = true)
    (by simp [IsIdText])

/-- `encode` and `parse` carry identities of 32 bytes through hexadecimal text and lose
nothing but the case of the letters. -/
structure ExactIdentityCodec {Id : Type} (bytes : Id → Vector U8 32) (encode : Id → String)
    (parse : String → Except ComputeError Id) : Prop where
  accepts_iff (value : String) : (∃ id, parse value = .ok id) ↔ IsIdText value
  parse_encode (id : Id) : parse (encode id) = .ok id
  encode_of_parse {value : String} {id : Id} : parse value = .ok id → encode id = value.toLower
  encode_injective : Function.Injective encode
  parsed_eq_iff {value value' : String} {id id' : Id} :
    parse value = .ok id → parse value' = .ok id' →
      (id = id' ↔ value.toLower = value'.toLower)
  encode_lt_iff (id id' : Id) :
    Lib.utf8 (encode id) < Lib.utf8 (encode id') ↔ (bytes id).toList < (bytes id').toList

theorem HexCrate.DecodesHex.decodesEncoded (hdec : hex.DecodesHex) (henc : hex.EncodesLower) :
    hex.DecodesEncoded := by
  intro bs
  rw [hdec, henc, Lib.hexBytes?_hexLower]

/-- A parsed text spells the bytes it was parsed to. -/
theorem parseHex32_eq_ok_iff (hdec : hex.DecodesHex) {value field : String}
    {bytes : Vector U8 32} :
    parseHex32 hex value field = .ok bytes ↔
      Lib.hexBytes? value.toList = some bytes.toList := by
  unfold parseHex32
  rw [← hdec]
  cases hread : hex.decode value with
  | error details => simp
  | ok decoded =>
    by_cases hlength : decoded.length = 32
    · simp only [hlength, ↓reduceDIte, Except.ok.injEq, ← Vector.toList_inj]
      rfl
    · simp only [hlength, ↓reduceDIte, Except.ok.injEq, reduceCtorEq, false_iff]
      intro h
      exact hlength (h ▸ bytes.length_toList)

theorem parseHex32_accepts_iff (hdec : hex.DecodesHex) (value field : String) :
    (∃ bytes, parseHex32 hex value field = .ok bytes) ↔ IsIdText value := by
  rw [IsIdText, ← Lib.exists_hexBytes?_length_iff (n := 32)]
  refine ⟨?_, ?_⟩
  · intro h
    obtain ⟨bytes, hparse⟩ := h
    exact ⟨bytes.toList, (parseHex32_eq_ok_iff hdec).mp hparse, bytes.length_toList⟩
  · intro h
    obtain ⟨bs, hread, hlength⟩ := h
    exact ⟨⟨bs.toArray, hlength⟩, (parseHex32_eq_ok_iff hdec).mpr hread⟩

/-- `parse_hex_32` is exact, whatever field its errors name. -/
theorem exactIdentityCodec_parseHex32 (henc : hex.EncodesLower) (hdec : hex.DecodesHex)
    (field : String) :
    ExactIdentityCodec id (fun bytes => hex.encode bytes.toList)
      (fun value => parseHex32 hex value field) where
  accepts_iff value := parseHex32_accepts_iff hdec value field
  parse_encode bytes := by
    rw [parseHex32_eq_ok_iff hdec, henc, Lib.hexBytes?_hexLower]
  encode_of_parse hparse := by
    rw [henc]
    exact Lib.hexLower_of_hexBytes? ((parseHex32_eq_ok_iff hdec).mp hparse)
  encode_injective bytes bytes' h := Vector.toList_inj.mp (henc.encode_injective h)
  parsed_eq_iff hparse hparse' := by
    have hread := (parseHex32_eq_ok_iff hdec).mp hparse
    have hread' := (parseHex32_eq_ok_iff hdec).mp hparse'
    rw [← Lib.hexLower_of_hexBytes? hread, ← Lib.hexLower_of_hexBytes? hread',
      Lib.hexLower_injective.eq_iff]
    exact Vector.toList_inj.symm
  encode_lt_iff bytes bytes' := by
    rw [Lib.utf8_lt_iff, henc, henc, Lib.hexLower_lt_iff]
    rfl

/-- Wrapping the bytes of an identity keeps the codec exact. -/
theorem ExactIdentityCodec.wrap {Id : Type} {bytes : Id → Vector U8 32}
    {mk : Vector U8 32 → Id} {encode : Vector U8 32 → String}
    {parse : String → Except ComputeError (Vector U8 32)}
    (h : ExactIdentityCodec id encode parse) (hmk : ∀ bs, bytes (mk bs) = bs)
    (hbytes : ∀ a, mk (bytes a) = a) :
    ExactIdentityCodec bytes (fun a => encode (bytes a)) (fun value => (parse value).map mk) := by
  have hinj : Function.Injective bytes := Function.LeftInverse.injective hbytes
  have hparse {value : String} {a : Id} :
      (parse value).map mk = .ok a ↔ parse value = .ok (bytes a) := by
    cases parse value with
    | error e => simp [Except.map]
    | ok bs =>
      simp only [Except.map, Except.ok.injEq]
      refine ⟨?_, ?_⟩
      · rintro rfl
        exact (hmk bs).symm
      · rintro rfl
        exact hbytes a
  exact
    { accepts_iff := by
        intro value
        rw [← h.accepts_iff value]
        refine ⟨?_, ?_⟩
        · intro haccept
          obtain ⟨a, ha⟩ := haccept
          exact ⟨bytes a, hparse.mp ha⟩
        · intro haccept
          obtain ⟨bs, hbs⟩ := haccept
          exact ⟨mk bs, hparse.mpr ((hmk bs).symm ▸ hbs)⟩
      parse_encode := by
        intro a
        rw [hparse, h.parse_encode]
      encode_of_parse := by
        intro value a ha
        exact h.encode_of_parse (hparse.mp ha)
      encode_injective := h.encode_injective.comp hinj
      parsed_eq_iff := by
        intro value value' a a' ha ha'
        rw [← h.parsed_eq_iff (hparse.mp ha) (hparse.mp ha'), hinj.eq_iff]
      encode_lt_iff := by
        intro a a'
        exact h.encode_lt_iff (bytes a) (bytes a') }

theorem exactIdentityCodec_agentId (henc : hex.EncodesLower) (hdec : hex.DecodesHex) :
    ExactIdentityCodec AgentId.bytes (encodeAgentId hex) (parseAgentIdHex hex) :=
  (exactIdentityCodec_parseHex32 henc hdec "agent_id").wrap (fun _ => rfl) (fun _ => rfl)

theorem exactIdentityCodec_machineId (henc : hex.EncodesLower) (hdec : hex.DecodesHex) :
    ExactIdentityCodec MachineId.bytes (encodeMachineId hex) (parseMachineIdHex hex) :=
  (exactIdentityCodec_parseHex32 henc hdec "machine_id").wrap (fun _ => rfl) (fun _ => rfl)

/-- The parsers accept exactly the 64-digit texts of either case, undo the encoders and are
undone by them up to the case of the letters, and the encoders keep the order of the
bytes. -/
theorem identity_codec_exact (henc : hex.EncodesLower) (hdec : hex.DecodesHex) :
    (∀ field, ExactIdentityCodec id (fun bytes => hex.encode bytes.toList)
      (fun value => parseHex32 hex value field)) ∧
    ExactIdentityCodec AgentId.bytes (encodeAgentId hex) (parseAgentIdHex hex) ∧
    ExactIdentityCodec MachineId.bytes (encodeMachineId hex) (parseMachineIdHex hex) ∧
    Function.Injective (encodeUserId hex) := by
  refine ⟨exactIdentityCodec_parseHex32 henc hdec, exactIdentityCodec_agentId henc hdec,
    exactIdentityCodec_machineId henc hdec, ?_⟩
  intro a b h
  have hbytes := (exactIdentityCodec_parseHex32 henc hdec "user_id").encode_injective h
  cases a
  cases b
  exact congrArg UserId.mk hbytes

theorem HexCrate.usual_decodesHex : HexCrate.usual.DecodesHex := by
  intro value bs
  unfold usual
  simp only
  split
  · rename_i bs' hread
    rw [hread, Except.ok.injEq, Option.some.injEq]
  · rename_i hread
    rw [hread]
    split <;> simp

theorem identity_codec_exact_usual :
    (∀ field, ExactIdentityCodec id (fun bytes => HexCrate.usual.encode bytes.toList)
      (fun value => parseHex32 HexCrate.usual value field)) ∧
    ExactIdentityCodec AgentId.bytes (encodeAgentId HexCrate.usual)
      (parseAgentIdHex HexCrate.usual) ∧
    ExactIdentityCodec MachineId.bytes (encodeMachineId HexCrate.usual)
      (parseMachineIdHex HexCrate.usual) ∧
    Function.Injective (encodeUserId HexCrate.usual) :=
  identity_codec_exact HexCrate.usual_encodesLower HexCrate.usual_decodesHex

end X0xCompute
