import TenantRelay.Proofs.Inflation

/-!
Packed bodies that are written without a code: the data stands in them as it is, in blocks of no
more bytes than two bytes can count. Such a body is unpacked to what was packed, whatever that is,
so all data has a packed form.
-/

namespace TenantRelay.Gzip

def littleBytes : Nat → Nat → Bytes
  | 0, _ => []
  | width + 1, n => UInt8.ofNat (n % 256) :: littleBytes width (n / 256)

theorem length_littleBytes (width n : Nat) : (littleBytes width n).length = width := by
  induction width generalizing n with
  | zero => rfl
  | succ width ih => rw [littleBytes, List.length_cons, ih]

theorem little_littleBytes (width n : Nat) : little (littleBytes width n) = n % 256 ^ width := by
  induction width generalizing n with
  | zero => rw [Nat.pow_zero, Nat.mod_one]; rfl
  | succ width ih =>
      have byte : (UInt8.ofNat (n % 256)).toNat = n % 256 :=
        UInt8.toNat_ofNat_of_lt' (Nat.mod_lt _ (by decide))
      rw [littleBytes, little, byte, ih, Nat.pow_succ', Nat.mod_mul]

def fullBlock : Nat := 65535

def plainBlock (last : Bool) (chunk : Bytes) : Bytes :=
  (if last then 1 else 0) ::
    (littleBytes 2 chunk.length ++ (littleBytes 2 (fullBlock - chunk.length) ++ chunk))

def plainBlocks (data : Bytes) : Bytes :=
  if data.length ≤ fullBlock then plainBlock true data
  else plainBlock false (data.take fullBlock) ++ plainBlocks (data.drop fullBlock)
termination_by data.length
decreasing_by
  have full : 0 < fullBlock := by decide
  rw [List.length_drop]
  omega

def bareHeader : Bytes := [0x1f, 0x8b, 8, 0, 0, 0, 0, 0, 0, 0xff]

def pack (data : Bytes) : Bytes :=
  bareHeader ++ (plainBlocks data ++
    (littleBytes 4 (checksum data).toNat ++ littleBytes 4 data.length))

theorem length_pack {data : Bytes} (short : data.length ≤ fullBlock) :
    (pack data).length = data.length + 23 := by
  rw [pack, plainBlocks, if_pos short]
  simp only [plainBlock, bareHeader, List.length_append, List.length_cons, length_littleBytes,
    List.length_nil]
  omega

/-! Reading, step by step. -/

namespace Read

variable {α β : Type} {rest : Bytes} {pieces : List Piece}

theorem bind_ok {x : Read α} {f : α → Read β} {r r' : Reading} {a : α}
    (read : x r = (.ok a, r')) : (x >>= f) r = f a r' := by
  show ExceptT.bindCont f (x r).1 (x r).2 = _
  rw [read]
  rfl

theorem number_add (m n : Nat) : number (m + n) = do
    let low ← number m
    let high ← number n
    return low + 2 ^ m * high := by
  induction m with
  | zero => simp only [Nat.zero_add, number, pure_bind, Nat.pow_zero, Nat.one_mul, bind_pure]
  | succ m ih =>
      have shifted : ∀ low first high : Nat,
          low + 2 * (first + 2 ^ m * high) = low + 2 * first + 2 ^ (m + 1) * high := by
        intro low first high
        rw [Nat.pow_succ', Nat.mul_add, Nat.mul_assoc, Nat.add_assoc]
      rw [Nat.succ_add, number, ih, number]
      simp only [bind_assoc, pure_bind, shifted]

theorem bits_of_byte : ∀ n < 256,
    (n.testBit 0).toNat + 2 * ((n.testBit 1).toNat + 2 * ((n.testBit 2).toNat +
      2 * ((n.testBit 3).toNat + 2 * ((n.testBit 4).toNat + 2 * ((n.testBit 5).toNat +
        2 * ((n.testBit 6).toNat + 2 * ((n.testBit 7).toNat + 2 * 0))))))) = n := by
  decide +kernel

theorem number_byte (b : UInt8) :
    number 8 ⟨[], b :: rest, pieces⟩ = (.ok b.toNat, ⟨[], rest, pieces⟩) :=
  congrArg (fun n => (Except.ok n, (⟨[], rest, pieces⟩ : Reading))) (bits_of_byte b.toNat b.toNat_lt)

theorem number_pair (low high : UInt8) :
    number 16 ⟨[], low :: high :: rest, pieces⟩ = (.ok (little [low, high]), ⟨[], rest, pieces⟩) := by
  rw [number_add 8 8, bind_ok (number_byte low), bind_ok (number_byte high)]
  rfl

theorem number_littleBytes {n : Nat} (short : n ≤ fullBlock) :
    number 16 ⟨[], littleBytes 2 n ++ rest, pieces⟩ = (.ok n, ⟨[], rest, pieces⟩) := by
  have value : little (littleBytes 2 n) = n := by
    rw [little_littleBytes]
    unfold fullBlock at short
    exact Nat.mod_eq_of_lt (by omega)
  have pair : littleBytes 2 n = [UInt8.ofNat (n % 256), UInt8.ofNat (n / 256 % 256)] := rfl
  rw [pair] at value ⊢
  rw [List.cons_append, List.cons_append, List.nil_append, number_pair, value]

end Read

variable {rest : Bytes} {pieces : List Piece}

theorem readPlain_append (chunk : Bytes) : readPlain chunk.length ⟨[], chunk ++ rest, pieces⟩ =
    (.ok (), ⟨[], rest, (chunk.map .byte).reverse ++ pieces⟩) := by
  induction chunk generalizing pieces with
  | nil => rfl
  | cons b chunk ih =>
      have next : readPlain (b :: chunk).length ⟨[], b :: chunk ++ rest, pieces⟩ =
          readPlain chunk.length ⟨[], chunk ++ rest, .byte b :: pieces⟩ := rfl
      rw [next, ih, List.map_cons, List.reverse_cons, List.append_assoc]
      rfl

theorem readBlock_plain (budget : Nat) {chunk : Bytes} (short : chunk.length ≤ fullBlock) :
    readBlock budget ⟨List.replicate 7 false, littleBytes 2 chunk.length ++
      (littleBytes 2 (fullBlock - chunk.length) ++ (chunk ++ rest)), pieces⟩ =
    (.ok (), ⟨[], rest, (chunk.map .byte).reverse ++ pieces⟩) := by
  have kind : ∀ bytes pieces, Read.number 2 ⟨List.replicate 7 false, bytes, pieces⟩ =
      (.ok 0, ⟨List.replicate 5 false, bytes, pieces⟩) := fun _ _ => rfl
  have aligned : ∀ r, Read.align r = (.ok (), { r with held := [] }) := fun _ => rfl
  have granted : ∀ r, demand true r = (.ok (), r) := fun _ => rfl
  have whole : (chunk.length + (fullBlock - chunk.length) == 65535) = true :=
    beq_iff_eq.mpr (Nat.add_sub_of_le short)
  unfold readBlock
  rw [Read.bind_ok (kind _ _)]
  show (do
    Read.align
    let length ← Read.number 16
    demand (length + (← Read.number 16) == 65535)
    readPlain length : Read Unit) _ = _
  rw [Read.bind_ok (aligned _), Read.bind_ok (Read.number_littleBytes short),
    Read.bind_ok (Read.number_littleBytes (Nat.sub_le _ _)), whole, Read.bind_ok (granted _)]
  exact readPlain_append chunk

/-- Blocks are read one after another up to the last one. A block that is not the last is full, so
there is a byte of data for each time that is left. -/
theorem readBlocks_plain (budget : Nat) (data : Bytes) {left : Nat} (enough : data.length < left) :
    readBlocks budget left ⟨[], plainBlocks data ++ rest, pieces⟩ =
      (.ok (), ⟨[], rest, (data.map .byte).reverse ++ pieces⟩) := by
  induction data using plainBlocks.induct generalizing left pieces with
  | case1 data short =>
      obtain ⟨left, rfl⟩ := Nat.exists_eq_succ_of_ne_zero (Nat.ne_of_gt (Nat.zero_lt_of_lt enough))
      rw [plainBlocks, if_pos short, readBlocks]
      have mark : ∀ bytes pieces, Read.bit ⟨[], 1 :: bytes, pieces⟩ =
          (.ok true, ⟨List.replicate 7 false, bytes, pieces⟩) := fun _ _ => rfl
      simp only [plainBlock, ↓reduceIte, List.cons_append, List.append_assoc]
      rw [Read.bind_ok (mark _ _), Read.bind_ok (readBlock_plain budget short)]
      rfl
  | case2 data long ih =>
      obtain ⟨left, rfl⟩ := Nat.exists_eq_succ_of_ne_zero (Nat.ne_of_gt (Nat.zero_lt_of_lt enough))
      have full : (data.take fullBlock).length = fullBlock :=
        List.length_take_of_le (Nat.le_of_not_le long)
      have mark : ∀ bytes pieces, Read.bit ⟨[], 0 :: bytes, pieces⟩ =
          (.ok false, ⟨List.replicate 7 false, bytes, pieces⟩) := fun _ _ => rfl
      have fewer : (data.drop fullBlock).length < left := by
        rw [List.length_drop]
        unfold fullBlock at long ⊢
        omega
      rw [plainBlocks, if_neg long, readBlocks]
      simp only [plainBlock, Bool.false_eq_true, ↓reduceIte, List.cons_append, List.append_assoc]
      rw [Read.bind_ok (mark _ _), Read.bind_ok (readBlock_plain budget (Nat.le_of_eq full))]
      simp only [Bool.false_eq_true, ↓reduceIte]
      rw [ih fewer, ← List.append_assoc, ← List.reverse_append, ← List.map_append,
        List.take_append_drop]

theorem length_le_plainBlocks (data : Bytes) : data.length ≤ (plainBlocks data).length := by
  induction data using plainBlocks.induct with
  | case1 data short =>
      rw [plainBlocks, if_pos short]
      simp only [plainBlock, List.length_cons, List.length_append]
      omega
  | case2 data long ih =>
      rw [plainBlocks, if_neg long]
      simp only [plainBlock, List.length_cons, List.length_append, List.length_drop,
        List.length_take] at ih ⊢
      omega

/-- The budget of a reading, which is its number of bits, is enough for plain blocks. -/
theorem readPacked_plain (data : Bytes) : readPacked (plainBlocks data ++ rest) =
    (.ok (), ⟨[], rest, (data.map .byte).reverse⟩) := by
  have enough : data.length < 8 * (plainBlocks data ++ rest).length + 1 := by
    have held := length_le_plainBlocks data
    rw [List.length_append]
    omega
  rw [← List.append_nil (data.map Piece.byte).reverse]
  exact readBlocks_plain _ data enough

theorem part_append (front rest : Bytes) : part front.length (front ++ rest) = .ok (front, rest) := by
  unfold part
  rw [if_pos (by rw [List.length_append]; exact Nat.le_add_right _ _), List.take_left,
    List.drop_left]

theorem afterHeader_bare (rest : Bytes) : afterHeader (bareHeader ++ rest) = .ok rest := by
  unfold afterHeader
  rw [show part 10 (bareHeader ++ rest) = .ok (bareHeader, rest) from part_append bareHeader rest]
  rfl

theorem foldl_writePiece_bytes (data : Bytes) (out : Array UInt8) :
    ((data.map .byte).foldl writePiece out).toList = out.toList ++ data := by
  induction data generalizing out with
  | nil => exact (List.append_nil _).symm
  | cons b data ih =>
      rw [List.map_cons, List.foldl_cons, ih, writePiece, Array.toList_push, List.append_assoc]
      rfl

theorem packs_pack (data : Bytes) : Packs (pack data) data := by
  have width := length_littleBytes 4
  have own : Reading.data ⟨[], littleBytes 4 (checksum data).toNat ++ littleBytes 4 data.length,
      (data.map .byte).reverse⟩ = data := by
    rw [Reading.data, List.reverse_reverse, foldl_writePiece_bytes]
    exact List.nil_append data
  refine packs_iff.mpr ⟨_, ⟨_, afterHeader_bare _, readPacked_plain data⟩, own, ?_, ?_, ?_⟩
  · simp [List.length_append, width]
  · rw [List.take_left' (width _), little_littleBytes]
    exact Nat.mod_eq_of_lt (checksum data).toNat_lt
  · rw [List.drop_left' (width _), List.take_of_length_le (Nat.le_of_eq (width _))]
    exact little_littleBytes 4 data.length

end TenantRelay.Gzip
