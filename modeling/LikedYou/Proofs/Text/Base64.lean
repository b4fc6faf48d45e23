import LikedYou.Base64
import LikedYou.Proofs.Text.Utf8

/-!
# Bytes survive base 64

* `decode_written` — the text of a byte string reads as that byte string
* `inAlphabet_of_mem_encode` — nothing is written but symbols and the filling
* `isPlace_of_decode` — what can be read has nothing in it but symbols and the filling

Writing goes by three bytes, reading by four places, and the reader treats the last four places
apart. So there is one lemma for three bytes with others behind them, and one for each way to end.
-/

namespace LikedYou.Base64

/-! ## Symbols -/

/-- The byte of the symbol of a value. -/
def symbolByte (v : Nat) : UInt8 := UInt8.ofNat (symbol v).toNat

theorem symbol_ascii {v : Nat} (h : v < 64) : (symbol v).toNat < 0x80 := by
  have hall : ∀ w ∈ List.range 64, (symbol w).toNat < 0x80 := by decide
  exact hall v (List.mem_range.mpr h)

theorem symbolByte_ne_pad {v : Nat} (h : v < 64) : symbolByte v ≠ pad := by
  have hall : ∀ w ∈ List.range 64, symbolByte w ≠ pad := by decide
  exact hall v (List.mem_range.mpr h)

theorem valueAt_symbolByte {v : Nat} (h : v < 64) (offset : Nat) :
    valueAt offset (symbolByte v) = .ok v := by
  rw [valueAt, symbolByte, value?_symbol h]

theorem encodeChar_symbol {v : Nat} (h : v < 64) : Utf8.encodeChar (symbol v) = [symbolByte v] :=
  Utf8.encodeChar_ascii (symbol_ascii h)

/-! ## Groups -/

theorem ofNat_eq {n : Nat} {x : UInt8} (h : n = x.toNat) : UInt8.ofNat n = x := by
  rw [h, UInt8.ofNat_toNat]

theorem bytesOf_triple (a b c : UInt8) :
    bytesOf (a.toNat / 4) (a.toNat % 4 * 16 + b.toNat / 16) (b.toNat % 16 * 4 + c.toNat / 64)
      (c.toNat % 64) = [a, b, c] := by
  have ha := a.toNat_lt
  have hb := b.toNat_lt
  have hc := c.toNat_lt
  rw [bytesOf, ofNat_eq (x := a) (by omega), ofNat_eq (x := b) (by omega),
    ofNat_eq (x := c) (by omega)]

theorem bytesOf_pair (a b : UInt8) :
    (bytesOf (a.toNat / 4) (a.toNat % 4 * 16 + b.toNat / 16) (b.toNat % 16 * 4) 0).take 2 =
      [a, b] := by
  have ha := a.toNat_lt
  have hb := b.toNat_lt
  rw [bytesOf, ofNat_eq (x := a) (by omega), ofNat_eq (x := b) (by omega)]
  rfl

theorem bytesOf_single (a : UInt8) :
    (bytesOf (a.toNat / 4) (a.toNat % 4 * 16) 0 0).take 1 = [a] := by
  have ha := a.toNat_lt
  rw [bytesOf, ofNat_eq (x := a) (by omega)]
  rfl

/-! ## Reading the last places -/

theorem lastValues_cons {v : Nat} (h : v < 64) (start place : Nat) (rest : Bytes) :
    lastValues start place (symbolByte v :: rest) =
      (lastValues start (place + 1) rest).map fun (vs, filled) => (v :: vs, filled) := by
  rw [lastValues, if_neg (symbolByte_ne_pad h), valueAt_symbolByte h]
  cases lastValues start (place + 1) rest <;> rfl

theorem lastValues_nil (start place : Nat) : lastValues start place [] = .ok ([], 0) := by
  rw [lastValues]

theorem lastValues_pad {place : Nat} (h : 2 ≤ place) (start : Nat) :
    lastValues start place [pad] = .ok ([], 1) := by
  rw [lastValues, if_pos rfl]
  simp [h]

theorem lastValues_pads {place : Nat} (h : 2 ≤ place) (start : Nat) :
    lastValues start place [pad, pad] = .ok ([], 2) := by
  rw [lastValues, if_pos rfl]
  simp [h]

theorem decodeLast_triple {a b c d : Nat} (ha : a < 64) (hb : b < 64) (hc : c < 64) (hd : d < 64)
    (start : Nat) :
    decodeLast start [symbolByte a, symbolByte b, symbolByte c, symbolByte d] =
      .ok (bytesOf a b c d) := by
  rw [decodeLast, lastValues_cons ha, lastValues_cons hb, lastValues_cons hc, lastValues_cons hd,
    lastValues_nil]
  simp [Except.map, bind, Except.bind]

theorem decodeLast_pair {a b c : Nat} (ha : a < 64) (hb : b < 64) (hc : c < 64) (h : c % 4 = 0)
    (start : Nat) :
    decodeLast start [symbolByte a, symbolByte b, symbolByte c, pad] =
      .ok ((bytesOf a b c 0).take 2) := by
  rw [decodeLast, lastValues_cons ha, lastValues_cons hb, lastValues_cons hc,
    lastValues_pad (by omega)]
  simp [Except.map, bind, Except.bind, h]

theorem decodeLast_single {a b : Nat} (ha : a < 64) (hb : b < 64) (h : b % 16 = 0) (start : Nat) :
    decodeLast start [symbolByte a, symbolByte b, pad, pad] = .ok ((bytesOf a b 0 0).take 1) := by
  rw [decodeLast, lastValues_cons ha, lastValues_cons hb, lastValues_pads (by omega)]
  simp [Except.map, bind, Except.bind, h]

/-! ## Reading what was written -/

/-- The bytes of the text of a byte string. -/
def written (bs : Bytes) : Bytes := Utf8.encode (encode bs)

theorem encodeChar_pad : Utf8.encodeChar '=' = [pad] := by decide

theorem written_triple (a b c : UInt8) (rest : Bytes) :
    written (a :: b :: c :: rest) =
      symbolByte (a.toNat / 4) :: symbolByte (a.toNat % 4 * 16 + b.toNat / 16) ::
        symbolByte (b.toNat % 16 * 4 + c.toNat / 64) :: symbolByte (c.toNat % 64) ::
          written rest := by
  have ha := a.toNat_lt
  have hb := b.toNat_lt
  have hc := c.toNat_lt
  rw [written, encode]
  simp only [Utf8.encode, List.flatMap_cons]
  rw [encodeChar_symbol (by omega), encodeChar_symbol (by omega), encodeChar_symbol (by omega),
    encodeChar_symbol (by omega)]
  rfl

theorem written_pair (a b : UInt8) :
    written [a, b] =
      [symbolByte (a.toNat / 4), symbolByte (a.toNat % 4 * 16 + b.toNat / 16),
        symbolByte (b.toNat % 16 * 4), pad] := by
  have ha := a.toNat_lt
  have hb := b.toNat_lt
  rw [written, encode]
  simp only [Utf8.encode, List.flatMap_cons, List.flatMap_nil]
  rw [encodeChar_symbol (by omega), encodeChar_symbol (by omega), encodeChar_symbol (by omega),
    encodeChar_pad]
  rfl

theorem written_single (a : UInt8) :
    written [a] = [symbolByte (a.toNat / 4), symbolByte (a.toNat % 4 * 16), pad, pad] := by
  have ha := a.toNat_lt
  rw [written, encode]
  simp only [Utf8.encode, List.flatMap_cons, List.flatMap_nil]
  rw [encodeChar_symbol (by omega), encodeChar_symbol (by omega), encodeChar_pad]
  rfl

theorem length_written (bs : Bytes) : (written bs).length % 4 = 0 := by
  fun_induction encode bs with
  | case1 a b c rest ih =>
    rw [written_triple]
    simp only [List.length_cons]
    omega
  | case2 a b => simp [written_pair]
  | case3 a => simp [written_single]
  | case4 => rfl

/-- Three bytes with others behind them. -/
theorem decodeFrom_written_cons (done : Bytes) (start : Nat) (a b c e : UInt8) (rest : Bytes) :
    decodeFrom done start
        (symbolByte (a.toNat / 4) :: symbolByte (a.toNat % 4 * 16 + b.toNat / 16) ::
          symbolByte (b.toNat % 16 * 4 + c.toNat / 64) :: symbolByte (c.toNat % 64) ::
            e :: rest) =
      decodeFrom (c :: b :: a :: done) (start + 4) (e :: rest) := by
  have ha := a.toNat_lt
  have hb := b.toNat_lt
  have hc := c.toNat_lt
  rw [decodeFrom, valueAt_symbolByte (by omega), valueAt_symbolByte (by omega),
    valueAt_symbolByte (by omega), valueAt_symbolByte (by omega)]
  simp only [bind, Except.bind, bytesOf_triple]
  rfl

theorem written_ne_nil {bs : Bytes} (h : bs ≠ []) : written bs ≠ [] := by
  fun_induction encode bs with
  | case1 a b c rest => rw [written_triple]; exact List.cons_ne_nil _ _
  | case2 a b => rw [written_pair]; exact List.cons_ne_nil _ _
  | case3 a => rw [written_single]; exact List.cons_ne_nil _ _
  | case4 => exact absurd rfl h

theorem decodeFrom_written (bs done : Bytes) (start : Nat) :
    decodeFrom done start (written bs) = .ok (done.reverse ++ bs) := by
  fun_induction encode bs generalizing done start with
  | case1 a b c rest ih =>
    have ha := a.toNat_lt
    have hb := b.toNat_lt
    have hc := c.toNat_lt
    rw [written_triple]
    cases rest with
    | nil =>
      -- these are the last places, but they are all filled
      show decodeFrom done start [_, _, _, _] = _
      rw [decodeFrom, decodeLast_triple (by omega) (by omega) (by omega) (by omega), bytesOf_triple]
      · rfl
      · simp
      · simp
    | cons x xs =>
      obtain ⟨e, text, he⟩ := List.exists_cons_of_ne_nil (written_ne_nil (List.cons_ne_nil x xs))
      rw [he, decodeFrom_written_cons, ← he, ih]
      simp
  | case2 a b =>
    have ha := a.toNat_lt
    have hb := b.toNat_lt
    rw [written_pair, decodeFrom, decodeLast_pair (by omega) (by omega) (by omega) (by omega),
      bytesOf_pair]
    · rfl
    · simp
    · simp
  | case3 a =>
    have ha := a.toNat_lt
    rw [written_single, decodeFrom, decodeLast_single (by omega) (by omega) (by omega),
      bytesOf_single]
    · rfl
    · simp
    · simp
  | case4 => simp [written, encode, Utf8.encode, decodeFrom]

/-- **Reading the text of a byte string gives the byte string back.** -/
theorem decode_written (bs : Bytes) : decode (written bs) = .ok bs := by
  have hlen := length_written bs
  rw [decode, decodeFrom_written, if_neg (by simp [hlen])]
  rfl

/-! ## What is written -/

/-- Whether a character may stand in a text: a letter or digit of ASCII, one of the two other symbols,
or the filling. -/
def InAlphabet (c : Char) : Prop := c.isAlphanum = true ∨ c = '-' ∨ c = '_' ∨ c = '='

instance (c : Char) : Decidable (InAlphabet c) :=
  inferInstanceAs (Decidable (_ ∨ _))

theorem inAlphabet_symbol {v : Nat} (h : v < 64) : InAlphabet (symbol v) := by
  have hall : ∀ w ∈ List.range 64, InAlphabet (symbol w) := by decide
  exact hall v (List.mem_range.mpr h)

/-- **Nothing is written but symbols and the filling.** -/
theorem inAlphabet_of_mem_encode {bs : Bytes} : ∀ c ∈ encode bs, InAlphabet c := by
  have hfilling : InAlphabet '=' := by decide
  fun_induction encode bs with
  | case1 a b c rest ih =>
    have ha := a.toNat_lt
    have hb := b.toNat_lt
    have hc := c.toNat_lt
    simp only [List.forall_mem_cons]
    exact ⟨inAlphabet_symbol (by omega), inAlphabet_symbol (by omega),
      inAlphabet_symbol (by omega), inAlphabet_symbol (by omega), ih⟩
  | case2 a b =>
    have ha := a.toNat_lt
    have hb := b.toNat_lt
    simp only [List.forall_mem_cons]
    exact ⟨inAlphabet_symbol (by omega), inAlphabet_symbol (by omega),
      inAlphabet_symbol (by omega), hfilling, nofun⟩
  | case3 a =>
    have ha := a.toNat_lt
    simp only [List.forall_mem_cons]
    exact ⟨inAlphabet_symbol (by omega), inAlphabet_symbol (by omega), hfilling, hfilling, nofun⟩
  | case4 => exact nofun

/-! ## What can be read -/

/-- Whether a byte may stand in a text: it is a symbol or the filling. -/
def IsPlace (b : UInt8) : Prop := (value? b).isSome = true ∨ b = pad

theorem bind_eq_ok_iff {ε α β : Type} {x : Except ε α} {f : α → Except ε β} {b : β} :
    x >>= f = .ok b ↔ ∃ a, x = .ok a ∧ f a = .ok b := by
  cases x with
  | error e => exact iff_of_false nofun nofun
  | ok a =>
    refine ⟨fun h => ⟨a, rfl, h⟩, ?_⟩
    rintro ⟨a', ha, h⟩
    cases ha
    exact h

theorem isPlace_of_valueAt {offset v : Nat} {b : UInt8} (h : valueAt offset b = .ok v) :
    IsPlace b := by
  unfold valueAt at h
  split at h
  · next hv => exact Or.inl (by rw [hv]; rfl)
  · cases h

theorem isPlace_of_lastValues {start place : Nat} {places : Bytes} {r : List Nat × Nat}
    (h : lastValues start place places = .ok r) : ∀ b ∈ places, IsPlace b := by
  induction places generalizing place r with
  | nil => exact nofun
  | cons b rest ih =>
    rw [lastValues] at h
    split at h
    · next hpad =>
      split at h
      · next hrest =>
        rw [Bool.and_eq_true, List.all_eq_true] at hrest
        refine List.forall_mem_cons.mpr ⟨Or.inr hpad, fun x hx => ?_⟩
        exact Or.inr (of_decide_eq_true (hrest.2 x hx))
      · cases h
    · obtain ⟨v, hv, h⟩ := bind_eq_ok_iff.mp h
      obtain ⟨r', hlast, -⟩ := bind_eq_ok_iff.mp h
      exact List.forall_mem_cons.mpr ⟨isPlace_of_valueAt hv, ih hlast⟩

theorem isPlace_of_decodeLast {start : Nat} {places bs : Bytes}
    (h : decodeLast start places = .ok bs) : ∀ b ∈ places, IsPlace b := by
  obtain ⟨r, hlast, -⟩ := bind_eq_ok_iff.mp h
  exact isPlace_of_lastValues hlast

theorem isPlace_of_decodeFrom {done text bs : Bytes} {start : Nat}
    (h : decodeFrom done start text = .ok bs) : ∀ b ∈ text, IsPlace b := by
  fun_induction decodeFrom done start text with
  | case1 done start a b c d e rest ih =>
    obtain ⟨va, ha, h⟩ := bind_eq_ok_iff.mp h
    obtain ⟨vb, hb, h⟩ := bind_eq_ok_iff.mp h
    obtain ⟨vc, hc, h⟩ := bind_eq_ok_iff.mp h
    obtain ⟨vd, hd, h⟩ := bind_eq_ok_iff.mp h
    simp only [List.forall_mem_cons]
    exact ⟨isPlace_of_valueAt ha, isPlace_of_valueAt hb, isPlace_of_valueAt hc,
      isPlace_of_valueAt hd, List.forall_mem_cons.mp (ih va vb vc vd h)⟩
  | case2 => exact nofun
  | case3 done start places =>
    obtain ⟨last, hlast, -⟩ := bind_eq_ok_iff.mp h
    exact isPlace_of_decodeLast hlast

/-- **What can be read has nothing in it but symbols and the filling.** -/
theorem isPlace_of_decode {text bs : Bytes} (h : decode text = .ok bs) :
    ∀ b ∈ text, IsPlace b := by
  unfold decode at h
  simp only at h
  split at h
  · cases h
  · exact isPlace_of_decodeFrom h

end LikedYou.Base64
