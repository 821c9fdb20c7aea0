import Overlord.Emule.Server.Results
import Overlord.Emule.Tcp.Hello
import Overlord.Wire.Agree

/-!
# The two readers of a tag

The hello of a peer and the packets of a server carry tags of one format, and each protocol has its
own reader of it: `decode_hello_tag` returns the bytes of the value, `decode_tag_value` the value.
They are compared here part by part, the name and then the value of each type.

`decodeHelloTag_agrees_decodeTagValue` — on every buffer they give the same verdict, and on an
accepted one the same name and the same rest.
-/

set_option autoImplicit false

namespace Overlord.Emule

open Wire

theorem agree_tagName (shortName : Bool) :
    Agree Eq (Hello.decodeHelloTagName shortName) (decodeTagName shortName) := by
  cases shortName with
  | true =>
    show Agree Eq (getU8 _ >>= fun name => pure (some name)) (some <$> getU8 _)
    rw [bind_pure_comp]
    exact (agree_getU8 _ _).map fun _ _ h => congrArg some h
  | false =>
    refine (agree_getU16 _ _).bind fun len len' hlen => ?_
    subst hlen
    refine (agree_getExact _ _ len.toNat).bind fun name name' hname => ?_
    exact .pure (by rw [hname.1])

/-- Values of a type that has no length of its own. -/
theorem agree_fixed {β : Type} (e e' : String) (n : Nat) (k : Bytes → β) :
    Agree (fun _ _ => True) (getExact e n) (k <$> getExact e' n) :=
  (agree_getExact e e' n).map_right fun _ _ _ => trivial

theorem agree_tagPayload (baseType : UInt8) :
    Agree (fun _ _ => True) (Hello.decodeHelloTagValue baseType) (decodeTagPayload baseType) := by
  rw [decodeTagPayload]
  split
  case h_1 h =>
    obtain rfl : baseType = 0x01 := UInt8.toNat_inj.mp h
    exact agree_fixed _ _ 16 _
  case h_2 h =>
    obtain rfl : baseType = 0x02 := UInt8.toNat_inj.mp h
    refine (agree_getU16 _ _).bind fun len len' hlen => ?_
    rw [hlen]
    exact agree_fixed _ _ _ _
  case h_3 h =>
    obtain rfl : baseType = 0x03 := UInt8.toNat_inj.mp h
    exact (agree_getExact_bind _ _ 4 _).map_right fun _ _ _ => trivial
  case h_4 h =>
    obtain rfl : baseType = 0x04 := UInt8.toNat_inj.mp h
    exact (agree_getExact_bind _ _ 4 _).map_right fun _ _ _ => trivial
  case h_5 h =>
    obtain rfl : baseType = 0x05 := UInt8.toNat_inj.mp h
    exact (agree_getExact_getU8 _ _).map_right fun _ _ _ => trivial
  case h_6 h =>
    obtain rfl : baseType = 0x06 := UInt8.toNat_inj.mp h
    refine (agree_getExact_getU16 _ _).bind fun bits bitLen hlen => ?_
    rw [hlen]
    exact (agree_getExact _ _ _).map fun _ _ _ => trivial
  case h_7 h =>
    obtain rfl : baseType = 0x07 := UInt8.toNat_inj.mp h
    refine (agree_getU32 _ _).bind fun len len' hlen => ?_
    rw [hlen]
    exact agree_fixed _ _ _ _
  case h_8 h =>
    obtain rfl : baseType = 0x08 := UInt8.toNat_inj.mp h
    exact (agree_getExact_bind _ _ 2 _).map_right fun _ _ _ => trivial
  case h_9 h =>
    obtain rfl : baseType = 0x09 := UInt8.toNat_inj.mp h
    exact (agree_getExact_getU8 _ _).map_right fun _ _ _ => trivial
  case h_10 h =>
    obtain rfl : baseType = 0x0B := UInt8.toNat_inj.mp h
    exact (agree_getExact_bind _ _ 8 _).map_right fun _ _ _ => trivial
  case h_11 h1 h2 h3 h4 h5 h6 h7 h8 h9 h10 =>
    have hne : ∀ t : UInt8, (baseType.toNat = t.toNat → False) → baseType ≠ t :=
      fun t h heq => h (congrArg UInt8.toNat heq)
    rw [Hello.decodeHelloTagValue, if_neg (hne Hello.TAGTYPE_STRING h2)]
    split
    case isTrue hstr =>
      have hlow : 17 ≤ baseType.toNat := hstr.1
      have hhigh : baseType.toNat ≤ 32 := hstr.2
      have hlen : (baseType - Hello.TAGTYPE_STR1 + 1).toNat = baseType.toNat - 17 + 1 := by
        rw [UInt8.toNat_add, UInt8.toNat_sub_of_le _ _ hstr.1]
        show (baseType.toNat - 17 + 1) % 256 = _
        omega
      rw [if_pos ⟨hlow, hhigh⟩, hlen]
      exact agree_fixed _ _ _ _
    case isFalse hstr =>
      have hnat : ¬ (17 ≤ baseType.toNat ∧ baseType.toNat ≤ 32) := hstr
      rw [if_neg hnat, if_neg (not_or.mpr ⟨hne Hello.TAGTYPE_UINT32 h3,
        hne Hello.TAGTYPE_FLOAT32 h4⟩), if_neg (hne Hello.TAGTYPE_UINT64 h10),
        if_neg (hne Hello.TAGTYPE_UINT16 h8), if_neg (not_or.mpr ⟨hne Hello.TAGTYPE_UINT8 h9,
        hne Hello.TAGTYPE_BOOL h5⟩), if_neg (hne Hello.TAGTYPE_BOOLARRAY h6),
        if_neg (hne Hello.TAGTYPE_BLOB h7), if_neg (hne 0x01 h1)]
      exact .throw _ _

theorem agree_tag :
    Agree (fun tag (named : Option UInt8 × DecodedTagValue) => tag.tagName = named.1)
      Hello.decodeHelloTag decodeTagValue := by
  have hbody : Agree (fun (tag : Hello.DecodedHelloTag) named => tag.tagName = named.1)
      (do
        let typeByte ← getU8 "short eD2k hello tag header"
        let baseType := typeByte &&& ~~~Hello.TAG_SHORT_NAME_MASK
        let tagName ← Hello.decodeHelloTagName (typeByte &&& Hello.TAG_SHORT_NAME_MASK != 0)
        let value ← Hello.decodeHelloTagValue baseType
        return ⟨tagName, baseType, value⟩)
      (do
        let typeByte ← getU8 "short ED2K tag header"
        let name ← decodeTagName (typeByte &&& TAG_SHORT_NAME_MASK != 0)
        let value ← decodeTagPayload (typeByte &&& 0x7F)
        return (name, value)) := by
    refine (agree_getU8 _ _).bind fun typeByte _ htype => ?_
    subst htype
    refine (agree_tagName _).bind fun name _ hname => ?_
    exact (agree_tagPayload _).bind fun _ _ _ => .pure hname
  intro s
  rw [Hello.decodeHelloTag, decodeTagValue, run_bind_of_ok (run_remaining s)]
  by_cases hshort : s.length < 2
  · have hneed : (Hello.needBytes 2 "short eD2k hello tag header").run s =
        .error "short eD2k hello tag header" := if_pos hshort
    rw [if_pos hshort, StateT.run_bind, hneed]
    exact .error _ _
  · have hneed : (Hello.needBytes 2 "short eD2k hello tag header").run s = .ok ((), s) :=
      if_neg hshort
    rw [if_neg hshort, run_bind_of_ok hneed]
    exact hbody s

/-- **The readers never disagree on where a tag ends.** -/
theorem decodeHelloTag_agrees_decodeTagValue (bytes : Bytes) :
    (Hello.decodeHelloTag.run bytes).toOption.map (fun r => (r.1.tagName, r.2)) =
      (decodeTagValue.run bytes).toOption.map (fun r => (r.1.1, r.2)) :=
  agree_tag.toOption_map (fun _ _ h => h) bytes

end Overlord.Emule
