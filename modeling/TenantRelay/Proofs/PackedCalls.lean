import TenantRelay.Proofs.Acceptance
import TenantRelay.Proofs.Packing

/-!
Calls with packed bodies. A front treats a packed body as it treats what is packed in it, and
refuses it without a look inside if that is longer than a body may be.
-/

namespace TenantRelay.Dispatcher

open Text

variable {m : Type → Type} {d : Dispatcher m} {call : Http.Call} {signature : String}

def SaysPacked (call : Http.Call) : Prop :=
  ∃ word : String, lowered word = "gzip" ∧
    call.headers.get? "content-encoding" = some (Utf8.encode word)

def SaysNothing (call : Http.Call) : Prop := call.headers.get? "content-encoding" = none

theorem isVisible_of_letter : ∀ k < 128, (Char.ofNat k).toLower ∈ "gzip".toList →
    ∀ b ∈ String.utf8EncodeChar (Char.ofNat k), Http.isVisible b = true := by
  decide +kernel

theorem headerText?_word {word : String} (spelt : lowered word = "gzip") :
    Http.headerText? (Utf8.encode word) = some word := by
  have visible : (Utf8.encode word).all Http.isVisible = true := by
    apply List.all_eq_true.mpr
    intro b member
    obtain ⟨c, letter, byte⟩ := List.mem_flatMap.mp member
    have small : c.toLower ∈ "gzip".toList := by
      rw [← lowered_eq_iff.mp spelt]
      exact List.mem_map_of_mem letter
    by_cases wide : 128 ≤ c.toNat
    · -- A wide character is its own small letter, and none of these four.
      rw [Hex.toLower_of_wide wide] at small
      have narrow : "gzip".toList.all (·.toNat < 128) = true := by decide
      have short := of_decide_eq_true (List.all_eq_true.mp narrow _ small)
      exact absurd short (Nat.not_lt.mpr wide)
    · have known := isVisible_of_letter c.toNat (Nat.lt_of_not_le wide)
      rw [Char.ofNat_toNat] at known
      exact known small b byte
  rw [Http.headerText?, if_pos visible]
  exact Utf8.decode?_encode word

theorem isPacked_of_saysPacked (told : SaysPacked call) : isPacked call = true := by
  obtain ⟨word, spelt, header⟩ := told
  rw [isPacked, header, Option.bind_some, headerText?_word spelt, Option.any_some]
  exact beq_iff_eq.mpr spelt

theorem isPacked_of_saysNothing (told : SaysNothing call) : isPacked call = false := by
  rw [isPacked, told]
  rfl

/-- What becomes of a genuine call is decided by what its message stands in. -/
theorem fate_of_unpacked {plain : Bytes} (genuine : d.Genuine call signature)
    (unpacked : d.Unpacked call plain) :
    d.fate call = match Json.parse Message.decoder plain with
      | .error e => .refused 400 { cause := .invalidMessage e }
      | .ok message => d.messageFate message := by
  have admitted : d.admitted signature call =
      (Json.parse Message.decoder plain).mapError .invalidMessage := by
    rw [genuine.admitted, unpack_eq_ok_iff.mpr unpacked]
    rfl
  simp only [fate, signature?_of_signed genuine.signed, admitted]
  cases Json.parse Message.decoder plain with
  | error e => rfl
  | ok message => rfl

theorem unpacked_of_packs {data : Bytes} (counted : d.maxBody + 1 ≠ UInt64.size)
    (told : SaysPacked call) (packs : Gzip.Packs call.body data)
    (short : data.length ≤ d.maxBody) : d.Unpacked call data := by
  have expanded : Gzip.expand d.maxBody call.body = .ok data := by
    rw [Gzip.expand_eq counted]
    exact Gzip.bounded_eq_ok_iff.mpr ⟨packs, short⟩
  exact .packed (isPacked_of_saysPacked told) expanded short

theorem expand_of_long {limit : Nat} {packed data : Bytes} (counted : limit + 1 ≠ UInt64.size)
    (packs : Gzip.Packs packed data) (long : limit < data.length) :
    Gzip.expand limit packed = .error (.tooLong limit) := by
  rw [Gzip.expand_eq counted, Gzip.bounded_first, packs, if_neg (Nat.not_le.mpr long)]

def overfull (d : Dispatcher m) : Rejection :=
  { cause := .decompression (Gzip.Fault.tooLong d.maxBody).message }

theorem not_unpacked_of_long {data : Bytes} (counted : d.maxBody + 1 ≠ UInt64.size)
    (told : SaysPacked call) (packs : Gzip.Packs call.body data) (long : d.maxBody < data.length)
    (plain : Bytes) : ¬d.Unpacked call plain := by
  intro unpacked
  cases unpacked with
  | plain unsaid => cases (isPacked_of_saysPacked told).symm.trans unsaid
  | packed _ expanded _ => cases (expand_of_long counted packs long).symm.trans expanded

/-- A genuine call with a packed body comes to the same as a genuine call with the body as it is,
handlers and reports included, if the body keeps to the limit; if it does not, it is refused and
nothing in it is read. All data has a packed form. What is unpacked was read to a good end, where
its checksum stands, and keeps to the limit; and nothing else is required, whatever reader it is
and however it shares out its bytes. The one limit that all this is not said of is the greatest. -/
theorem packed_like_plain [Monad m] [LawfulMonad m] (d : Dispatcher m)
    (counted : d.maxBody + 1 ≠ UInt64.size) :
    (∀ packed plain signature other, d.Genuine packed signature → SaysPacked packed →
      d.Genuine plain other → SaysNothing plain → Gzip.Packs packed.body plain.body →
      d.handle packed = d.handle plain) ∧
    (∀ packed signature data, d.Genuine packed signature → SaysPacked packed →
      Gzip.Packs packed.body data → d.maxBody < data.length →
      d.handle packed = pure (refused d.overfull) ∧ (refused d.overfull).answer.status = 400 ∧
        ∀ plain, ¬d.Unpacked packed plain) ∧
    (∀ data, ∃ packed, Gzip.Packs packed data) ∧
    (∀ limit packed data, limit + 1 ≠ UInt64.size → (Gzip.expand limit packed = .ok data ↔
      (∃ reading, Gzip.Checked packed data reading) ∧ data.length ≤ limit)) ∧
    (∀ limit packed result, limit + 1 ≠ UInt64.size →
      (Gzip.unpacking packed).Drains (limit + 1) result →
      Gzip.expand limit packed = Gzip.bounded limit result) ∧
    ∀ (reader : Gzip.Stream) limit, (∃ result, reader.Drains (limit + 1) result) ∧
      ∀ result, reader.Drains (limit + 1) result → ∀ data,
        Gzip.bounded limit result = .ok data ↔
          reader = ⟨data, .ok ()⟩ ∧ data.length ≤ limit := by
  refine ⟨?_, ?_, fun data => ⟨_, Gzip.packs_pack data⟩, ?_, ?_, ?_⟩
  · intro packed plain signature other genuine told whole bare packs
    have unpacked := unpacked_of_packs counted told packs whole.short
    rw [handle_eq_run, handle_eq_run, fate_of_unpacked genuine unpacked,
      fate_of_unpacked whole (.plain (isPacked_of_saysNothing bare))]
  · intro packed signature data genuine told packs long
    have fate := fate_of_corrupt genuine (isPacked_of_saysPacked told)
      (expand_of_long counted packs long)
    refine ⟨?_, status_refused "unknown" d.overfull, not_unpacked_of_long counted told packs long⟩
    rw [handle_eq_run, fate]
    rfl
  · intro limit packed data counted
    rw [Gzip.expand_eq counted, Gzip.bounded_eq_ok_iff, ← Gzip.packs_iff]
    rfl
  · intro limit packed result counted drains
    rw [Gzip.expand_eq counted, drains.eq_first]
  · intro reader limit
    refine ⟨reader.exists_drains _, ?_⟩
    intro result drains data
    rw [drains.eq_first, Gzip.bounded_eq_ok_iff]

/-! A call to a front that comes packed, and one that holds more than it seems to. -/

def zipped : Http.Call :=
  signed (Utf8.encode desk.secret)
    ⟨"POST", "/", [("content-encoding", Utf8.encode "GZip")], Gzip.pack noting.encode, none⟩

def narrow : Dispatcher Id := { desk with maxBody := 30 }

def dense : Bytes :=
  [0x1f, 0x8b, 8, 0, 0, 0, 0, 0, 0, 0xff, 0x4b, 0x4c, 0x24, 0x0e, 0, 0,
    0x25, 0x8a, 0x5b, 0xc9, 40, 0, 0, 0]

def swelling : Http.Call :=
  signed (Utf8.encode narrow.secret)
    ⟨"POST", "/", [("content-encoding", Utf8.encode "gzip")], dense, none⟩

theorem body_signed (secret : Bytes) (call : Http.Call) : (signed secret call).body = call.body :=
  rfl

theorem dense_packs : Gzip.Packs dense (List.replicate 40 0x61) := by
  have found : (Gzip.expand 40 dense).toOption = some (List.replicate 40 0x61) := by
    decide +kernel
  have accepted := Document.ok_of_toOption found
  rw [Gzip.expand_eq (by decide)] at accepted
  exact (Gzip.bounded_eq_ok_iff.mp accepted).1

theorem packed_like_plain_desk :
    (desk.Genuine zipped (Signature.sign (Utf8.encode desk.secret) (Gzip.pack noting.encode)) ∧
      SaysPacked zipped ∧
      desk.Genuine noted (Signature.sign (Utf8.encode desk.secret) noting.encode) ∧
      SaysNothing noted ∧ Gzip.Packs zipped.body noted.body ∧
      desk.handle zipped = desk.handle noted) ∧
    narrow.Genuine swelling (Signature.sign (Utf8.encode narrow.secret) dense) ∧
      SaysPacked swelling ∧ Gzip.Packs swelling.body (List.replicate 40 0x61) ∧
      narrow.maxBody < 40 ∧ narrow.handle swelling = pure (refused narrow.overfull) := by
  have short : noting.encode.length ≤ 1000 := by decide +kernel
  have most : desk.maxBody = 33554432 := rfl
  have longer := Gzip.length_pack (Nat.le_trans short (by decide))
  have one : desk.Genuine zipped
      (Signature.sign (Utf8.encode desk.secret) (Gzip.pack noting.encode)) :=
    genuine_signed (by omega)
  have two : desk.Genuine noted (Signature.sign (Utf8.encode desk.secret) noting.encode) :=
    genuine_signed (by omega)
  have three : narrow.Genuine swelling (Signature.sign (Utf8.encode narrow.secret) dense) :=
    genuine_signed (by decide)
  have told : SaysPacked zipped := ⟨"GZip", lowered_eq_iff.mpr (by decide), rfl⟩
  have bare : SaysNothing noted := rfl
  have packs : Gzip.Packs zipped.body noted.body := by
    simp only [zipped, noted, body_signed]
    exact Gzip.packs_pack noting.encode
  have toldToo : SaysPacked swelling := ⟨"gzip", lowered_eq_iff.mpr (by decide), rfl⟩
  have same := (packed_like_plain desk (by decide)).1 zipped noted _ _ one told two bare packs
  have refusal := (packed_like_plain narrow (by decide)).2.1 swelling _ _ three toldToo dense_packs
    (by decide)
  exact ⟨⟨one, told, two, bare, packs, same⟩, three, toldToo, dense_packs, by decide, refusal.1⟩

end TenantRelay.Dispatcher
