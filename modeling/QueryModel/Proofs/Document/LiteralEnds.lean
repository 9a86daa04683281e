import QueryModel.Proofs.Document.Offsets

/-!
# Where string literals end

A string literal ends behind its closing quotes, whatever stands before it and after it. This is
told in bytes, since a backslash takes a single byte with it and that byte may be the first of
several that make up a character. In a text the end of a literal still lies between characters, also
where the closing quotes are missing.
-/

set_option autoImplicit false

namespace QueryModel

open Text

inductive PlainBytes : List UInt8 → Prop
  | close : PlainBytes [0x22]
  | byte {b : UInt8} {bs : List UInt8} (hb : b ≠ 0x22 ∧ b ≠ 0x5C ∧ b ≠ 0x0A)
      (h : PlainBytes bs) : PlainBytes (b :: bs)
  | escape {b : UInt8} {bs : List UInt8} (hb : b ≠ 0x0A) (h : PlainBytes bs) :
      PlainBytes (0x5C :: b :: bs)

inductive BlockBytes : List UInt8 → Prop
  | close : BlockBytes [0x22, 0x22, 0x22]
  | escape {bs : List UInt8} (h : BlockBytes bs) : BlockBytes (0x5C :: 0x22 :: 0x22 :: 0x22 :: bs)
  | byte {b : UInt8} {bs : List UInt8} (hclose : ¬ [0x22, 0x22, 0x22] <+: b :: bs)
      (hescape : ¬ [0x5C, 0x22, 0x22, 0x22] <+: b :: bs) (h : BlockBytes bs) : BlockBytes (b :: bs)

/-- The bytes are a whole literal before the others. A quote after the empty literal would make it a
block literal. -/
inductive LiteralBytes (post : List UInt8) : List UInt8 → Prop
  | plain {bs : List UInt8} (h : PlainBytes bs) (hempty : bs = [0x22] → post.head? ≠ some 0x22) :
      LiteralBytes post (0x22 :: bs)
  | block {bs : List UInt8} (h : BlockBytes bs) : LiteralBytes post (0x22 :: 0x22 :: 0x22 :: bs)

section Written

variable {bs post lit : List UInt8}

theorem PlainBytes.length_eq (h : PlainBytes bs) (post : List UInt8) :
    Lexeme.plainLiteral (bs ++ post) = bs.length := by
  induction h with
  | close => rfl
  | @byte b bs hb h ih =>
    have hone : ∀ x ∈ [b], x ≠ 0x5C ∧ x ≠ 0x22 ∧ x ≠ 0x0A :=
      List.forall_mem_singleton.mpr ⟨hb.2.1, hb.1, hb.2.2⟩
    rw [← List.singleton_append, List.append_assoc, plainLiteral_append hone, ih,
      List.length_append]
  | @escape b bs hb h ih =>
    rw [List.cons_append, List.cons_append, Lexeme.plainLiteral, ih]
    rfl

theorem PlainBytes.not_quotes (h : PlainBytes bs)
    (hempty : bs = [0x22] → post.head? ≠ some 0x22) : ¬ [0x22, 0x22] <+: bs ++ post := by
  intro hquotes
  cases h with
  | close =>
    obtain ⟨more, hmore⟩ := (List.cons_prefix_cons.mp hquotes).2
    have hpost : post = 0x22 :: more := hmore.symm
    exact hempty rfl (by rw [hpost, List.head?_cons])
  | byte hb h => exact hb.1 (List.cons_prefix_cons.mp hquotes).1.symm
  | escape hb h => exact absurd (List.cons_prefix_cons.mp hquotes).1 (by decide)

theorem BlockBytes.three_le (h : BlockBytes bs) : 3 ≤ bs.length := by
  induction h with
  | close => decide
  | escape h ih | byte hclose hescape h ih =>
    simp only [List.length_cons]
    omega

theorem BlockBytes.length_eq (h : BlockBytes bs) (post : List UInt8) :
    Lexeme.blockLiteral (bs ++ post) = bs.length := by
  induction h with
  | close => rfl
  | escape h ih =>
    simp only [List.cons_append]
    rw [Lexeme.blockLiteral, ih]
    rfl
  | @byte b bs hclose hescape h ih =>
    -- Quotes that begin in the literal end in it, since three more follow.
    have hwithin {ds : List UInt8} (hds : ds.length ≤ 3) (hpre : ds <+: bs ++ post) : ds <+: bs :=
      List.prefix_of_prefix_length_le hpre (List.prefix_append bs post)
        (Nat.le_trans hds h.three_le)
    rw [List.cons_append, blockLiteral_byte, ih, List.length_cons]
    · rintro rfl hquotes
      exact hclose (List.cons_prefix_cons.mpr ⟨rfl, hwithin (by decide) hquotes⟩)
    · rintro rfl hquotes
      exact hescape (List.cons_prefix_cons.mpr ⟨rfl, hwithin (by decide) hquotes⟩)

theorem LiteralBytes.literalRest_eq (h : LiteralBytes post lit) :
    ∃ bs, lit = 0x22 :: bs ∧ Lexeme.literalRest (bs ++ post) = bs.length := by
  cases h with
  | @plain bs h hempty =>
    refine ⟨bs, rfl, ?_⟩
    rw [Lexeme.literalRest.eq_2, h.length_eq]
    intro more hmore
    exact h.not_quotes hempty ⟨more, hmore.symm⟩
  | @block bs h =>
    refine ⟨0x22 :: 0x22 :: bs, rfl, ?_⟩
    rw [List.cons_append, List.cons_append, Lexeme.literalRest, h.length_eq]
    rfl

end Written

def literalEnd (bs : List UInt8) (start : Nat) : Nat :=
  start + 1 + Lexeme.literalRest (bs.drop (start + 1))

section Offsets

variable {bs : List UInt8} {start : Nat}

theorem exists_of_byte_at {b : UInt8} (h : bs[start]? = some b) :
    ∃ pre rest, bs = pre ++ b :: rest ∧ pre.length = start := by
  obtain ⟨hstart, rfl⟩ := List.getElem?_eq_some_iff.mp h
  refine ⟨bs.take start, bs.drop (start + 1), ?_, List.length_take_of_le (Nat.le_of_lt hstart)⟩
  rw [← List.drop_eq_getElem_cons hstart, List.take_append_drop]

theorem drop_behind (pre rest : List UInt8) (b : UInt8) (n : Nat) :
    (pre ++ b :: rest).drop (pre.length + 1 + n) = rest.drop n := by
  rw [Nat.add_assoc, List.drop_length_add_append, Nat.add_comm, List.drop_succ_cons]

theorem literalEnd_append (pre rest : List UInt8) :
    literalEnd (pre ++ 0x22 :: rest) pre.length = pre.length + 1 + Lexeme.literalRest rest := by
  rw [literalEnd, drop_behind pre rest 0x22 0, List.drop_zero]

theorem literalRest_le_length (rest : List UInt8) : Lexeme.literalRest rest ≤ rest.length :=
  Lexeme.extent_le_length .text rest

theorem literalEnd_bounds (h : bs[start]? = some 0x22) :
    start < literalEnd bs start ∧ literalEnd bs start ≤ bs.length := by
  obtain ⟨pre, rest, rfl, rfl⟩ := exists_of_byte_at h
  have hrest := literalRest_le_length rest
  rw [literalEnd_append, List.length_append, List.length_cons]
  omega

/-- The lexeme that a quote begins ends where the literal does, and the next one begins there. -/
theorem all_drop_literal (h : bs[start]? = some 0x22) :
    Lexeme.all (bs.drop start) =
      ⟨.text, (bs.drop start).take (literalEnd bs start - start)⟩ ::
        Lexeme.all (bs.drop (literalEnd bs start)) := by
  obtain ⟨pre, rest, rfl, rfl⟩ := exists_of_byte_at h
  have hmark : Lexeme.markOf 0x22 = .text := by decide
  have hlength : pre.length + 1 + Lexeme.literalRest rest - pre.length =
      Lexeme.literalRest rest + 1 := by omega
  rw [literalEnd_append, drop_behind, List.drop_left, hlength, List.take_succ_cons,
    Lexeme.all_cons, hmark]
  rfl

end Offsets

section Characters

variable {cs w rest : List Char}

theorem exists_of_bytes_append {d : Char} (hd : d.toNat < 128) {pre more : List UInt8}
    (h : bytes cs = pre ++ d.toUInt8 :: more) :
    ∃ before after, cs = before ++ d :: after ∧ bytes before = pre ∧ bytes after = more := by
  induction cs generalizing pre with
  | nil => simp [bytes] at h
  | cons c cs ih =>
    have hlater (later : List UInt8) (hpre : pre = String.utf8EncodeChar c ++ later)
        (hcs : bytes cs = later ++ d.toUInt8 :: more) :
        ∃ before after, c :: cs = before ++ d :: after ∧ bytes before = pre ∧
          bytes after = more := by
      obtain ⟨before, after, rfl, rfl, hafter⟩ := ih hcs
      exact ⟨c :: before, after, rfl, by rw [bytes_cons, hpre], hafter⟩
    rw [bytes_cons] at h
    rcases List.append_eq_append_iff.mp h with ⟨later, hpre, hcs⟩ | ⟨first, hc, hrest⟩
    · exact hlater later hpre hcs
    · cases first with
      | nil => exact hlater [] (by simp [hc]) hrest.symm
      | cons b first =>
        obtain ⟨rfl, rfl⟩ := List.cons.inj hrest
        -- The byte belongs to the character, which is then no other than it.
        have hmem : d.toUInt8 ∈ String.utf8EncodeChar c := by simp [hc]
        obtain rfl : c = d := eq_of_isByte hd hmem (by simp [Lexeme.isByte])
        rw [encode_ascii hd, List.singleton_eq_append_iff] at hc
        rcases hc with ⟨rfl, hfirst⟩ | ⟨-, hnone⟩
        · obtain rfl : [] = first := by simpa using hfirst.symm
          exact ⟨[], cs, rfl, rfl, rfl⟩
        · contradiction

theorem Spelt.literalRest_eq (h : Spelt .text ('"' :: w) rest) :
    Lexeme.literalRest (bytes (w ++ rest)) = (bytes w).length := by
  have hmark : Lexeme.markOf '"'.toUInt8 = .text := by decide
  rcases h.lexes_or_beyond with hlex | ⟨-, -, hother, -⟩
  · rw [Lexes, List.cons_append, bytes_cons_ascii (by decide), bytes_cons_ascii (by decide),
      Lexeme.all_cons, hmark] at hlex
    have hfirst := congrArg Lexeme.bytes (List.cons.inj hlex).1
    have htake : (bytes (w ++ rest)).take (Lexeme.literalRest (bytes (w ++ rest))) = bytes w :=
      (List.cons.inj hfirst).2
    rw [← htake, List.length_take, Nat.min_eq_left (literalRest_le_length _)]
  · contradiction

/-- In a text a literal ends between two characters, also if it breaks off. -/
theorem literalEnd_isBoundary {start : Nat} (h : (bytes cs)[start]? = some 0x22) :
    IsBoundary cs (literalEnd (bytes cs) start) := by
  obtain ⟨pre, more, hcs, rfl⟩ := exists_of_byte_at h
  obtain ⟨before, after, rfl, rfl, rfl⟩ := exists_of_bytes_append (d := '"') (by decide) hcs
  obtain ⟨w, rest, rfl, hw⟩ := exists_literal after
  have hend : literalEnd (bytes (before ++ '"' :: (w ++ rest))) (bytes before).length =
      (bytes (before ++ '"' :: w)).length := by
    rw [hcs, literalEnd_append, hw.literalRest_eq, bytes_append, List.length_append,
      bytes_cons_ascii (by decide), List.length_cons]
    omega
  have htext : before ++ '"' :: (w ++ rest) = before ++ '"' :: w ++ rest := by simp
  rw [hend, htext]
  exact isBoundary_append (before ++ '"' :: w) rest

end Characters

/-- A literal ends behind its last byte, whatever stands around it. From any quote on, closed or
not, the end lies in the text and between its characters, and the next lexeme begins there. -/
theorem literalEnd_behind_literal :
    (∀ pre lit post : List UInt8, LiteralBytes post lit →
      literalEnd (pre ++ lit ++ post) pre.length = pre.length + lit.length) ∧
    (∀ (bs : List UInt8) (start : Nat), bs[start]? = some 0x22 →
      start < literalEnd bs start ∧ literalEnd bs start ≤ bs.length ∧
        Lexeme.all (bs.drop start) =
          ⟨.text, (bs.drop start).take (literalEnd bs start - start)⟩ ::
            Lexeme.all (bs.drop (literalEnd bs start))) ∧
    ∀ (text : String) (start : Nat), (bytes text.toList)[start]? = some 0x22 →
      IsBoundary text.toList (literalEnd (bytes text.toList) start) := by
  refine ⟨fun pre lit post hlit => ?_, fun bs start h => ?_, fun text start h => ?_⟩
  · obtain ⟨bs, rfl, hrest⟩ := hlit.literalRest_eq
    rw [List.append_assoc, List.cons_append, literalEnd_append, hrest, List.length_cons]
    omega
  · obtain ⟨hafter, hwithin⟩ := literalEnd_bounds h
    exact ⟨hafter, hwithin, all_drop_literal h⟩
  · exact literalEnd_isBoundary h

/-- A quote, an escape and a lone backslash in a block literal with a quote behind it, an escaped
quote in an ordinary literal, and one that breaks off after an escaped character of two bytes. -/
theorem literalEnd_behind_literal_broken :
    literalEnd ([0xC3] ++ [0x22, 0x22, 0x22, 0x22, 0x5C, 0x22, 0x22, 0x22, 0x5C, 0x41, 0x22, 0x22,
      0x22] ++ [0x22]) 1 = 14 ∧
    literalEnd ([0x22] ++ [0x22, 0x5C, 0x22, 0x22] ++ [0x22]) 1 = 5 ∧
    (bytes "é \"\\é\n\"".toList)[3]? = some 0x22 ∧
    literalEnd (bytes "é \"\\é\n\"".toList) 3 = 7 ∧ 7 ≤ (bytes "é \"\\é\n\"".toList).length ∧
    IsBoundary "é \"\\é\n\"".toList 7 := by
  obtain ⟨hwritten, hquote, hchars⟩ := literalEnd_behind_literal
  have hinner : BlockBytes [0x5C, 0x41, 0x22, 0x22, 0x22] :=
    .byte (by decide) (by decide) (.byte (by decide) (by decide) .close)
  have hblock : LiteralBytes [0x22] [0x22, 0x22, 0x22, 0x22, 0x5C, 0x22, 0x22, 0x22, 0x5C, 0x41,
      0x22, 0x22, 0x22] := .block (.byte (by decide) (by decide) (.escape hinner))
  have hplain : LiteralBytes [0x22] [0x22, 0x5C, 0x22, 0x22] :=
    .plain (.escape (by decide) .close) (by decide)
  have hstart : (bytes "é \"\\é\n\"".toList)[3]? = some 0x22 := by decide
  have hend : literalEnd (bytes "é \"\\é\n\"".toList) 3 = 7 := by decide
  obtain ⟨-, hwithin, -⟩ := hquote _ 3 hstart
  have hboundary := hchars _ 3 hstart
  rw [hend] at hwithin hboundary
  exact ⟨hwritten [0xC3] _ _ hblock, hwritten [0x22] _ _ hplain, hstart, hend, hwithin, hboundary⟩

end QueryModel
