import EventBroker.Base64

/-!
Decoding undoes encoding. A byte string is cut into whole triples and one last
group of one, two or three bytes: the triples become the quads before the last
one, which are read by their values alone, and the last group becomes the quad
with the padding. No text grows by being decoded.
-/
namespace EventBroker.Base64

abbrev Triple := UInt8 × UInt8 × UInt8

def Triple.bytes (t : Triple) : Bytes := [t.1, t.2.1, t.2.2]

def Triple.quad (t : Triple) : Bytes := Base64.quad t.1 t.2.1 t.2.2

def Triple.values (t : Triple) : List Nat :=
  [t.1.toNat / 4, t.1.toNat % 4 * 16 + t.2.1.toNat / 16,
    t.2.1.toNat % 16 * 4 + t.2.2.toNat / 64, t.2.2.toNat % 64]

theorem value?_symbol : ∀ n, n < 64 → value? (symbol n) = some n := by decide

theorem value?_pad : value? pad = none := by decide

theorem symbol_ne_pad (n : Nat) (hn : n < 64) : symbol n ≠ pad := by
  intro h
  have hv := value?_symbol n hn
  rw [h, value?_pad] at hv
  contradiction

theorem first_value_lt (a : UInt8) : a.toNat / 4 < 64 := by
  have ha := a.toNat_lt
  omega

theorem second_value_lt (a b : UInt8) : a.toNat % 4 * 16 + b.toNat / 16 < 64 := by
  have hb := b.toNat_lt
  omega

theorem third_value_lt (b c : UInt8) : b.toNat % 16 * 4 + c.toNat / 64 < 64 := by
  have hc := c.toNat_lt
  omega

theorem first_byte (a b : UInt8) :
    UInt8.ofNat (a.toNat / 4 * 4 + (a.toNat % 4 * 16 + b.toNat / 16) / 16) = a := by
  have hb := b.toNat_lt
  have h : a.toNat / 4 * 4 + (a.toNat % 4 * 16 + b.toNat / 16) / 16 = a.toNat := by omega
  rw [h, UInt8.ofNat_toNat]

theorem second_byte (a b c : UInt8) :
    UInt8.ofNat ((a.toNat % 4 * 16 + b.toNat / 16) % 16 * 16
      + (b.toNat % 16 * 4 + c.toNat / 64) / 4) = b := by
  have hb := b.toNat_lt
  have hc := c.toNat_lt
  have h : (a.toNat % 4 * 16 + b.toNat / 16) % 16 * 16
      + (b.toNat % 16 * 4 + c.toNat / 64) / 4 = b.toNat := by omega
  rw [h, UInt8.ofNat_toNat]

theorem third_byte (b c : UInt8) :
    UInt8.ofNat ((b.toNat % 16 * 4 + c.toNat / 64) % 4 * 64 + c.toNat % 64) = c := by
  have hc := c.toNat_lt
  have h : (b.toNat % 16 * 4 + c.toNat / 64) % 4 * 64 + c.toNat % 64 = c.toNat := by omega
  rw [h, UInt8.ofNat_toNat]

theorem encodeOnto_append (written before s : Bytes) :
    encodeOnto (written ++ before) s = encodeOnto written s ++ before := by
  fun_induction encodeOnto written s with
  | case1 written a b c rest ih =>
    rw [encodeOnto, ← List.append_assoc, ih]
  | case2 written a b => rfl
  | case3 written a => rfl
  | case4 written => rfl

theorem encode_triple (t : Triple) (rest : Bytes) :
    encode (t.bytes ++ rest) = t.quad ++ encode rest := by
  obtain ⟨a, b, c⟩ := t
  change (encodeOnto ([] ++ ((quad a b c).reverse ++ [])) rest).reverse = quad a b c ++ encode rest
  rw [encodeOnto_append, List.append_nil, List.reverse_append, List.reverse_reverse]
  rfl

theorem encode_triples (ts : List Triple) (rest : Bytes) :
    encode (ts.flatMap Triple.bytes ++ rest) = ts.flatMap Triple.quad ++ encode rest := by
  induction ts with
  | nil => rfl
  | cons t ts ih =>
    simp only [List.flatMap_cons, List.append_assoc]
    rw [encode_triple, ih]

theorem length_quads (ts : List Triple) : (ts.flatMap Triple.quad).length = 4 * ts.length := by
  induction ts with
  | nil => rfl
  | cons t ts ih =>
    have hq : t.quad.length = 4 := rfl
    simp only [List.flatMap_cons, List.length_append, List.length_cons, hq, ih]
    omega

def IsGroup (last : Bytes) : Prop :=
  (∃ a, last = [a]) ∨ (∃ a b, last = [a, b]) ∨ ∃ a b c, last = [a, b, c]

/-- Every byte string that is not empty is a row of triples and one last group. -/
theorem exists_triples (s : Bytes) (hs : s ≠ []) :
    ∃ (ts : List Triple) (last : Bytes),
      s = ts.flatMap Triple.bytes ++ last ∧ IsGroup last := by
  match s with
  | [] => contradiction
  | [a] => exact ⟨[], [a], rfl, Or.inl ⟨a, rfl⟩⟩
  | [a, b] => exact ⟨[], [a, b], rfl, Or.inr (Or.inl ⟨a, b, rfl⟩)⟩
  | [a, b, c] => exact ⟨[], [a, b, c], rfl, Or.inr (Or.inr ⟨a, b, c, rfl⟩)⟩
  | a :: b :: c :: d :: rest =>
    obtain ⟨ts, last, heq, hlast⟩ := exists_triples (d :: rest) (List.cons_ne_nil d rest)
    refine ⟨(a, b, c) :: ts, last, ?_, hlast⟩
    rw [heq]
    rfl

theorem symbols_quad (offset : Nat) (values : List Nat) (t : Triple) (rest : Bytes) :
    symbols offset values (t.quad ++ rest) =
      symbols (offset + 4) (t.values.reverse ++ values) rest := by
  obtain ⟨a, b, c⟩ := t
  have h0 := value?_symbol _ (first_value_lt a)
  have h1 := value?_symbol _ (second_value_lt a b)
  have h2 := value?_symbol _ (third_value_lt b c)
  have h3 := value?_symbol (c.toNat % 64) (Nat.mod_lt _ (by omega))
  simp only [Triple.quad, quad, Triple.values, List.cons_append, List.nil_append, symbols,
    h0, h1, h2, h3, List.reverse_cons, List.reverse_nil]

theorem symbols_quads (offset : Nat) (values : List Nat) (ts : List Triple) :
    symbols offset values (ts.flatMap Triple.quad) =
      .ok ((ts.flatMap Triple.values).reverse ++ values) := by
  induction ts generalizing offset values with
  | nil => rfl
  | cons t ts ih =>
    simp only [List.flatMap_cons, List.reverse_append, List.append_assoc]
    rw [symbols_quad, ih]

theorem packOnto_triple (after : Bytes) (t : Triple) (values : List Nat) :
    packOnto after (t.values.reverse ++ values) = packOnto (t.bytes ++ after) values := by
  obtain ⟨a, b, c⟩ := t
  simp only [Triple.values, Triple.bytes, List.reverse_cons, List.reverse_nil, List.nil_append,
    List.cons_append, packOnto, first_byte, second_byte, third_byte]

theorem packOnto_triples (after : Bytes) (ts : List Triple) (values : List Nat) :
    packOnto after ((ts.flatMap Triple.values).reverse ++ values) =
      packOnto (ts.flatMap Triple.bytes ++ after) values := by
  induction ts generalizing values with
  | nil => rfl
  | cons t ts ih =>
    simp only [List.flatMap_cons, List.reverse_append, List.append_assoc]
    rw [ih, packOnto_triple]

theorem readTail_symbol (start : Nat) (read : List (UInt8 × Nat)) (n : Nat) (rest : Bytes)
    (hn : n < 64) :
    readTail start ⟨read, 0⟩ (symbol n :: rest) =
      readTail start ⟨(symbol n, n) :: read, 0⟩ rest := by
  have hpad : (symbol n == pad) = false := beq_eq_false_iff_ne.mpr (symbol_ne_pad n hn)
  simp only [readTail, hpad, value?_symbol n hn, Bool.false_eq_true, if_false, ne_eq,
    not_true_eq_false]

theorem length_encode_group (last : Bytes) (hlast : IsGroup last) : (encode last).length = 4 := by
  rcases hlast with ⟨a, rfl⟩ | ⟨a, b, rfl⟩ | ⟨a, b, c, rfl⟩ <;> rfl

/-- The quad of a last group is read as that group. -/
theorem readTail_encode (start : Nat) (last : Bytes) (hlast : IsGroup last) :
    ∃ tail, readTail start {} (encode last) = .ok tail ∧ tail.bytes start = .ok last := by
  rcases hlast with ⟨a, rfl⟩ | ⟨a, b, rfl⟩ | ⟨a, b, c, rfl⟩
  · refine ⟨⟨[(symbol (a.toNat % 4 * 16), a.toNat % 4 * 16), (symbol (a.toNat / 4), a.toNat / 4)],
      2⟩, ?_, ?_⟩
    · change readTail start ⟨[], 0⟩
        [symbol (a.toNat / 4), symbol (a.toNat % 4 * 16), pad, pad] = _
      rw [readTail_symbol _ _ _ _ (first_value_lt a), readTail_symbol _ _ _ _ (by omega)]
      rfl
    · have hzero : a.toNat % 4 * 16 % 16 = 0 := by omega
      have hbyte : UInt8.ofNat (a.toNat / 4 * 4 + a.toNat % 4 * 16 / 16) = a := first_byte a 0
      simp only [Tail.bytes, List.length_cons, List.length_nil, Nat.reduceAdd, Nat.reduceMod,
        Nat.lt_irrefl, ne_eq, hzero, not_true_eq_false, if_false, hbyte]
  · refine ⟨⟨[(symbol (b.toNat % 16 * 4), b.toNat % 16 * 4),
      (symbol (a.toNat % 4 * 16 + b.toNat / 16), a.toNat % 4 * 16 + b.toNat / 16),
      (symbol (a.toNat / 4), a.toNat / 4)], 1⟩, ?_, ?_⟩
    · change readTail start ⟨[], 0⟩ [symbol (a.toNat / 4),
        symbol (a.toNat % 4 * 16 + b.toNat / 16), symbol (b.toNat % 16 * 4), pad] = _
      rw [readTail_symbol _ _ _ _ (first_value_lt a), readTail_symbol _ _ _ _ (second_value_lt a b),
        readTail_symbol _ _ _ _ (by omega)]
      rfl
    · have hzero : b.toNat % 16 * 4 % 4 = 0 := by omega
      have hbyte : UInt8.ofNat ((a.toNat % 4 * 16 + b.toNat / 16) % 16 * 16
          + b.toNat % 16 * 4 / 4) = b := second_byte a b 0
      simp only [Tail.bytes, List.length_cons, List.length_nil, Nat.reduceAdd, Nat.reduceMod,
        Nat.reduceLT, ne_eq, hzero, not_true_eq_false, if_false, first_byte, hbyte]
  · refine ⟨⟨[(symbol (c.toNat % 64), c.toNat % 64),
      (symbol (b.toNat % 16 * 4 + c.toNat / 64), b.toNat % 16 * 4 + c.toNat / 64),
      (symbol (a.toNat % 4 * 16 + b.toNat / 16), a.toNat % 4 * 16 + b.toNat / 16),
      (symbol (a.toNat / 4), a.toNat / 4)], 0⟩, ?_, ?_⟩
    · change readTail start ⟨[], 0⟩ (quad a b c) = _
      rw [quad, readTail_symbol _ _ _ _ (first_value_lt a),
        readTail_symbol _ _ _ _ (second_value_lt a b),
        readTail_symbol _ _ _ _ (third_value_lt b c),
        readTail_symbol _ _ _ _ (Nat.mod_lt _ (by omega))]
      rfl
    · simp only [Tail.bytes, List.length_cons, List.length_nil, Nat.reduceAdd, Nat.reduceMod,
        Nat.reduceLT, ne_eq, not_true_eq_false, if_false, first_byte, second_byte, third_byte]

theorem strayEnd_of_length (s : Bytes) (hs : s.length % 4 = 0) : strayEnd s = none := by
  have h : ¬ s.length % 4 = 1 := by omega
  rw [strayEnd, if_neg h]

theorem decode_of_reads {s last : Bytes} {values : List Nat} {tail : Tail} (hs : s ≠ [])
    (hlength : s.length % 4 = 0)
    (hvalues : symbols 0 [] (s.take (quadsBefore s.length)) = .ok values)
    (htail : readTail (quadsBefore s.length) {} (s.drop (quadsBefore s.length)) = .ok tail)
    (hbytes : tail.bytes (quadsBefore s.length) = .ok last) :
    decode s = .ok (packOnto last values) := by
  cases s with
  | nil => contradiction
  | cons b rest =>
    simp only [decode, strayEnd_of_length _ hlength, hvalues, htail, hbytes]

theorem decode_encode (s : Bytes) : decode (encode s) = .ok s := by
  by_cases hs : s = []
  · subst hs
    rfl
  · obtain ⟨ts, last, rfl, hlast⟩ := exists_triples s hs
    have hfront := length_quads ts
    have hgroup := length_encode_group last hlast
    have hlength : (ts.flatMap Triple.quad ++ encode last).length = 4 * ts.length + 4 := by
      rw [List.length_append, hfront, hgroup]
    have hstart : quadsBefore (4 * ts.length + 4) = (ts.flatMap Triple.quad).length := by
      unfold quadsBefore
      omega
    have hne : ts.flatMap Triple.quad ++ encode last ≠ [] := by
      intro hnil
      rw [hnil, List.length_nil] at hlength
      omega
    have hquads : quadsBefore (ts.flatMap Triple.quad ++ encode last).length =
        (ts.flatMap Triple.quad).length := by
      rw [hlength, hstart]
    obtain ⟨tail, hread, hbytes⟩ := readTail_encode (ts.flatMap Triple.quad).length last hlast
    have hvalues : symbols 0 [] ((ts.flatMap Triple.quad ++ encode last).take
        (ts.flatMap Triple.quad).length) = .ok ((ts.flatMap Triple.values).reverse ++ []) := by
      rw [List.take_left, symbols_quads]
    have htail : readTail (ts.flatMap Triple.quad).length {}
        ((ts.flatMap Triple.quad ++ encode last).drop (ts.flatMap Triple.quad).length) =
          .ok tail := by
      rw [List.drop_left, hread]
    rw [← hquads] at hvalues htail hbytes
    rw [encode_triples, decode_of_reads hne (by omega) hvalues htail hbytes, packOnto_triples]
    rfl

theorem encode_ne_nil (s : Bytes) (hs : s ≠ []) : encode s ≠ [] := by
  intro h
  have hdecode := decode_encode s
  rw [h] at hdecode
  exact hs (Except.ok.inj hdecode).symm

def IsWritten (b : UInt8) : Prop := b = pad ∨ ∃ n, n < 64 ∧ b = symbol n

theorem isWritten_of_mem_quad (a b c x : UInt8) (hx : x ∈ quad a b c) : IsWritten x := by
  simp only [quad, List.mem_cons, List.not_mem_nil, or_false] at hx
  rcases hx with rfl | rfl | rfl | rfl
  · exact Or.inr ⟨_, first_value_lt a, rfl⟩
  · exact Or.inr ⟨_, second_value_lt a b, rfl⟩
  · exact Or.inr ⟨_, third_value_lt b c, rfl⟩
  · exact Or.inr ⟨_, Nat.mod_lt _ (by omega), rfl⟩

theorem isWritten_of_mem_encodeOnto (written s : Bytes) (hwritten : ∀ x ∈ written, IsWritten x) :
    ∀ x ∈ encodeOnto written s, IsWritten x := by
  fun_induction encodeOnto written s with
  | case1 written a b c rest ih =>
    apply ih
    intro x hx
    rcases List.mem_append.mp hx with hquad | hold
    · exact isWritten_of_mem_quad a b c x (List.mem_reverse.mp hquad)
    · exact hwritten x hold
  | case2 written a b =>
    intro x hx
    simp only [List.mem_cons] at hx
    rcases hx with rfl | rfl | rfl | rfl | hold
    · exact Or.inl rfl
    · exact Or.inr ⟨_, third_value_lt b 0, rfl⟩
    · exact Or.inr ⟨_, second_value_lt a b, rfl⟩
    · exact Or.inr ⟨_, first_value_lt a, rfl⟩
    · exact hwritten x hold
  | case3 written a =>
    intro x hx
    simp only [List.mem_cons] at hx
    rcases hx with rfl | rfl | rfl | rfl | hold
    · exact Or.inl rfl
    · exact Or.inl rfl
    · exact Or.inr ⟨_, second_value_lt a 0, rfl⟩
    · exact Or.inr ⟨_, first_value_lt a, rfl⟩
    · exact hwritten x hold
  | case4 written => exact hwritten

theorem isWritten_of_mem_encode (s : Bytes) (x : UInt8) (hx : x ∈ encode s) : IsWritten x :=
  isWritten_of_mem_encodeOnto [] s (fun _ h => absurd h List.not_mem_nil) x
    (List.mem_reverse.mp hx)

theorem length_symbols (offset : Nat) (values read : List Nat) (s : Bytes)
    (h : symbols offset values s = .ok read) : read.length = values.length + s.length := by
  induction s generalizing offset values with
  | nil =>
    cases h
    rfl
  | cons b rest ih =>
    rw [symbols] at h
    cases hvalue : value? b with
    | none =>
      rw [hvalue] at h
      cases h
    | some v =>
      rw [hvalue] at h
      have hlength := ih _ _ h
      rw [List.length_cons] at hlength ⊢
      omega

theorem length_packOnto_le (after : Bytes) (values : List Nat) :
    (packOnto after values).length ≤ after.length + values.length := by
  fun_induction packOnto after values with
  | case1 after v3 v2 v1 v0 rest ih =>
    simp only [List.length_cons] at ih ⊢
    omega
  | case2 => exact Nat.le_add_right _ _

theorem length_readTail_le (start : Nat) (t t' : Tail) (s : Bytes)
    (h : readTail start t s = .ok t') : t'.read.length ≤ t.read.length + s.length := by
  fun_induction readTail start t s with
  | case1 t =>
    cases h
    exact Nat.le_add_right _ _
  | case2 => cases h
  | case3 t b rest hpad hplace ih =>
    have hlength : t'.read.length ≤ t.read.length + rest.length := ih h
    rw [List.length_cons]
    omega
  | case4 => cases h
  | case5 => cases h
  | case6 t b rest hpad hpadding v hv ih =>
    have hlength := ih h
    rw [List.length_cons] at hlength ⊢
    omega

theorem length_bytes_le (start : Nat) (t : Tail) (last : Bytes) (h : t.bytes start = .ok last) :
    last.length ≤ t.read.length := by
  unfold Tail.bytes at h
  split at h
  · cases h
  · split at h
    · cases h
    · split at h
      · next hread =>
        split at h
        · cases h
        · cases h
          rw [hread]
          exact Nat.le_succ 1
      · next hread =>
        split at h
        · cases h
        · cases h
          rw [hread]
          exact Nat.le_succ 2
      · next hread =>
        cases h
        rw [hread]
        exact Nat.le_succ 3
      · cases h

/-- Decoding makes nothing longer. -/
theorem length_decode_le (s t : Bytes) (h : decode s = .ok t) : t.length ≤ s.length := by
  unfold decode at h
  split at h
  · cases h
    exact Nat.le_refl 0
  · cases h
  · simp only at h
    split at h
    · cases h
    · next values hvalues =>
      split at h
      · cases h
      · next tail htail =>
        split at h
        · cases h
        · next last hlast =>
          cases h
          have hquads := length_symbols _ _ _ _ hvalues
          have hpacked := length_packOnto_le last values
          have hread := length_readTail_le _ _ _ _ htail
          have hend := length_bytes_le _ _ _ hlast
          rw [List.length_take] at hquads
          rw [List.length_drop] at hread
          simp only [List.length_nil] at hquads hread
          omega

end EventBroker.Base64
