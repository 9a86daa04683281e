import QueryModel.Proofs.Document.Forms
import QueryModel.Proofs.Text.Characters

/-!
# Lexemes of written text

The bytes of an ASCII character are that character alone, and all bytes of any other
character are beyond ASCII. So a lexeme that is recognised by ASCII bytes is recognised in
the characters of a text: a name up to a character that cannot go on with it, a comment up
to its line feed, and a string literal up to its closing quotes.
-/

set_option autoImplicit false

namespace QueryModel

open Text

section Ascii

theorem of_byte_codes {p : UInt8 → Prop} (h : ∀ n < 256, p (UInt8.ofNat n)) (b : UInt8) : p b := by
  have hn := h b.toNat b.toNat_lt
  rwa [UInt8.ofNat_toNat] at hn

theorem encode_ascii {c : Char} (hc : c.toNat < 128) :
    String.utf8EncodeChar c = [c.toUInt8] := by
  apply String.utf8EncodeChar_eq_singleton
  rw [Char.utf8Size_eq_one_iff, UInt32.le_iff_toNat_le]
  exact Nat.le_of_lt_succ hc

theorem encode_beyond {c : Char} (hc : 128 ≤ c.toNat) :
    ∀ b ∈ String.utf8EncodeChar c, 128 ≤ b.toNat := by
  intro b hb
  have hv : ¬ c.val.toNat ≤ 127 := by
    change ¬ c.toNat ≤ 127
    omega
  simp only [String.utf8EncodeChar, hv, if_false] at hb
  split at hb
  · simp only [List.mem_cons, List.not_mem_nil, or_false] at hb
    rcases hb with rfl | rfl <;> simp only [UInt8.toNat_ofNat'] <;> omega
  · split at hb
    · simp only [List.mem_cons, List.not_mem_nil, or_false] at hb
      rcases hb with rfl | rfl | rfl <;> simp only [UInt8.toNat_ofNat'] <;> omega
    · simp only [List.mem_cons, List.not_mem_nil, or_false] at hb
      rcases hb with rfl | rfl | rfl | rfl <;> simp only [UInt8.toNat_ofNat'] <;> omega

theorem isNameByte_ascii {c : Char} (hc : c.toNat < 128) :
    Lexeme.isNameByte c.toUInt8 = isNameChar c :=
  of_ascii_codes (p := fun c => Lexeme.isNameByte c.toUInt8 = isNameChar c) (by decide +kernel) hc

theorem markOf_beyond {b : UInt8} (hb : 128 ≤ b.toNat) : Lexeme.markOf b = .other :=
  of_byte_codes (p := fun b => 128 ≤ b.toNat → Lexeme.markOf b = .other) (by decide +kernel) b hb

theorem isNameByte_beyond {b : UInt8} (hb : 128 ≤ b.toNat) : Lexeme.isNameByte b = false :=
  of_byte_codes (p := fun b => 128 ≤ b.toNat → Lexeme.isNameByte b = false) (by decide +kernel) b hb

theorem isNameByte_of_mem {c : Char} {b : UInt8} (hb : b ∈ String.utf8EncodeChar c) :
    Lexeme.isNameByte b = isNameChar c := by
  by_cases hc : c.toNat < 128
  · rw [encode_ascii hc, List.mem_singleton] at hb
    rw [hb, isNameByte_ascii hc]
  · rw [isNameByte_beyond (encode_beyond (by omega) b hb), eq_comm, ← Bool.not_eq_true]
    exact fun h => hc (isNameChar_ascii h)

theorem eq_of_isByte {c d : Char} {b : UInt8} (hd : d.toNat < 128)
    (hb : b ∈ String.utf8EncodeChar c) (h : Lexeme.isByte b d = true) : c = d := by
  have hbyte : b.toNat = d.toNat := by
    rw [Lexeme.isByte, beq_iff_eq] at h
    rw [h]
    exact Nat.mod_eq_of_lt (by change d.toNat < 256; omega)
  by_cases hc : c.toNat < 128
  · rw [encode_ascii hc, List.mem_singleton] at hb
    have hcode : c.toNat = d.toNat := by
      rw [← hbyte, hb]
      exact (Nat.mod_eq_of_lt (by change c.toNat < 256; omega)).symm
    rw [← Char.ofNat_toNat c, hcode, Char.ofNat_toNat]
  · have := encode_beyond (by omega) b hb
    omega

theorem bytes_cons (c : Char) (cs : List Char) :
    bytes (c :: cs) = String.utf8EncodeChar c ++ bytes cs := by
  simp [bytes]

theorem length_bytes_pos {cs : List Char} (h : cs ≠ []) : 0 < (bytes cs).length := by
  obtain ⟨c, rest, rfl⟩ := List.exists_cons_of_ne_nil h
  rw [bytes_cons, List.length_append, String.length_utf8EncodeChar]
  exact Nat.add_pos_left c.utf8Size_pos _

theorem bytes_cons_ascii {c : Char} (hc : c.toNat < 128) (cs : List Char) :
    bytes (c :: cs) = c.toUInt8 :: bytes cs := by
  rw [bytes_cons, encode_ascii hc]
  rfl

end Ascii

/-- The characters are a lexeme of the kind before the rest. -/
def Lexes (mark : Lexeme.Mark) (cs rest : List Char) : Prop :=
  Lexeme.all (bytes (cs ++ rest)) = ⟨mark, bytes cs⟩ :: Lexeme.all (bytes rest)

theorem lexes_of_extent {c : Char} {cs rest : List Char} {mark : Lexeme.Mark}
    (hc : c.toNat < 128) (hmark : Lexeme.markOf c.toUInt8 = mark)
    (hextent : Lexeme.extent mark (bytes (cs ++ rest)) = (bytes cs).length) :
    Lexes mark (c :: cs) rest := by
  rw [Lexes, List.cons_append, bytes_cons_ascii hc, Lexeme.all, hmark, hextent, bytes_append,
    List.take_left, List.drop_left, bytes_cons_ascii hc]

theorem lexes_char {c : Char} {mark : Lexeme.Mark} (hc : c.toNat < 128)
    (hmark : Lexeme.markOf c.toUInt8 = mark) (hextent : ∀ bs, Lexeme.extent mark bs = 0)
    (rest : List Char) : Lexes mark [c] rest := by
  apply lexes_of_extent hc hmark
  rw [hextent]
  rfl

theorem lexes_gap {c : Char} (hc : c ∈ gapChars) (rest : List Char) :
    Lexes .gap [c] rest := by
  have h : ∀ c ∈ gapChars, c.toNat < 128 ∧ Lexeme.markOf c.toUInt8 = .gap :=
    of_listed (by decide)
  exact lexes_char (h c hc).1 (h c hc).2 (fun _ => rfl) rest

theorem lexes_punctuator {c : Char} (hc : c ∈ punctuators) (rest : List Char) :
    Lexes .other [c] rest := by
  have h : ∀ c ∈ punctuators, c.toNat < 128 ∧ Lexeme.markOf c.toUInt8 = .other :=
    of_listed (by decide)
  exact lexes_char (h c hc).1 (h c hc).2 (fun _ => rfl) rest

theorem lexes_brackets {o c : Char} (h : BracketPair o c) (rest : List Char) :
    Lexes (.opening (o = '\x7b')) [o] rest ∧ Lexes (.closing (o = '\x7b')) [c] rest := by
  cases h <;> exact ⟨lexes_char (by decide) (by decide) (fun _ => rfl) rest,
    lexes_char (by decide) (by decide) (fun _ => rfl) rest⟩

theorem takeWhile_name {n rest : List Char} (hn : ∀ c ∈ n, isNameChar c = true)
    (hrest : Stops rest) : (bytes (n ++ rest)).takeWhile Lexeme.isNameByte = bytes n := by
  induction n with
  | nil =>
    cases rest with
    | nil => rfl
    | cons c rest =>
      obtain ⟨b, bs, hb⟩ := List.exists_cons_of_ne_nil (String.utf8EncodeChar_ne_nil (c := c))
      have hbyte : Lexeme.isNameByte b = false := by
        rw [isNameByte_of_mem (hb ▸ List.mem_cons_self)]
        exact hrest c rfl
      rw [List.nil_append, bytes_cons, hb, List.cons_append, List.takeWhile_cons, hbyte]
      rfl
  | cons c n ih =>
    have hc := hn c List.mem_cons_self
    have hascii := isNameChar_ascii hc
    rw [List.cons_append, bytes_cons_ascii hascii, bytes_cons_ascii hascii, List.takeWhile_cons,
      isNameByte_ascii hascii, hc, if_pos rfl, ih fun d hd => hn d (List.mem_cons_of_mem c hd)]

theorem lexes_name {n rest : List Char} (hn : isName n = true) (hrest : Stops rest) :
    Lexes .word n rest := by
  cases n with
  | nil => simp [isName] at hn
  | cons c n =>
    simp only [isName, Bool.and_eq_true, List.all_eq_true] at hn
    obtain ⟨hc, hn⟩ := hn
    have hascii : c.toNat < 128 := isNameChar_ascii (by simp [isNameChar, hc])
    apply lexes_of_extent hascii
    · revert hc
      exact of_ascii_codes (p := fun c => isNameStart c = true →
        Lexeme.markOf c.toUInt8 = .word) (by decide +kernel) hascii
    · rw [Lexeme.extent, takeWhile_name hn hrest]

theorem lexes_directive {n rest : List Char} (hn : isName n = true) (hrest : Stops rest) :
    Lexes .directive ('@' :: n) rest := by
  apply lexes_of_extent (by decide) (by decide)
  rw [Lexeme.extent, takeWhile_name (isName_chars hn) hrest]

theorem takeWhile_line {line : List Char} (hline : '\n' ∉ line) (rest : List Char) :
    (bytes (line ++ '\n' :: rest)).takeWhile (fun b => !Lexeme.isByte b '\n') = bytes line := by
  rw [bytes_append, bytes_cons_ascii (by decide), List.takeWhile_append_of_pos]
  · simp [Lexeme.isByte]
  · intro b hb
    obtain ⟨c, hc, hb⟩ := List.mem_flatMap.mp hb
    rw [Bool.not_eq_true', ← Bool.not_eq_true]
    intro h
    exact hline (eq_of_isByte (by decide) hb h ▸ hc)

theorem lexes_comment {line : List Char} (hline : '\n' ∉ line) (rest : List Char) :
    Lexes .comment ('#' :: line) ('\n' :: rest) := by
  apply lexes_of_extent (by decide) (by decide)
  rw [Lexeme.extent, takeWhile_line hline]

theorem plainLiteral_append {bs : List UInt8}
    (hbs : ∀ b ∈ bs, b ≠ 0x5C ∧ b ≠ 0x22 ∧ b ≠ 0x0A) (rest : List UInt8) :
    Lexeme.plainLiteral (bs ++ rest) = bs.length + Lexeme.plainLiteral rest := by
  induction bs with
  | nil => simp
  | cons b bs ih =>
    obtain ⟨h5C, h22, h0A⟩ := hbs b List.mem_cons_self
    rw [List.cons_append, Lexeme.plainLiteral.eq_6 _ _ (by simp [h5C]) (by simp [h5C]) h22 h0A,
      ih fun d hd => hbs d (List.mem_cons_of_mem b hd), List.length_cons]
    omega

theorem blockLiteral_byte {b : UInt8} (rest : List UInt8)
    (hclose : b = 0x22 → ¬ [0x22, 0x22] <+: rest)
    (hescape : b = 0x5C → ¬ [0x22, 0x22, 0x22] <+: rest) :
    Lexeme.blockLiteral (b :: rest) = Lexeme.blockLiteral rest + 1 := by
  rw [Lexeme.blockLiteral.eq_3]
  · intro tail hb hrest
    exact hescape hb (hrest ▸ List.prefix_append [0x22, 0x22, 0x22] tail)
  · intro tail hb hrest
    exact hclose hb (hrest ▸ List.prefix_append [0x22, 0x22] tail)

theorem blockLiteral_append {bs : List UInt8} (hbs : ∀ b ∈ bs, b ≠ 0x5C ∧ b ≠ 0x22)
    (rest : List UInt8) :
    Lexeme.blockLiteral (bs ++ rest) = bs.length + Lexeme.blockLiteral rest := by
  induction bs with
  | nil => simp
  | cons b bs ih =>
    obtain ⟨h5C, h22⟩ := hbs b List.mem_cons_self
    rw [List.cons_append, blockLiteral_byte _ (absurd · h22) (absurd · h5C),
      ih fun d hd => hbs d (List.mem_cons_of_mem b hd), List.length_cons]
    omega

theorem ne_of_mem_encode {c d : Char} (hd : d.toNat < 128) (hne : c ≠ d) {b : UInt8}
    (hb : b ∈ String.utf8EncodeChar c) : b ≠ d.toUInt8 := fun h =>
  hne (eq_of_isByte hd hb (by simp [Lexeme.isByte, h]))

theorem plainLiteral_char {c : Char} (hc : c ≠ '"' ∧ c ≠ '\\' ∧ c ≠ '\n') (cs : List Char) :
    Lexeme.plainLiteral (bytes (c :: cs)) =
      (bytes [c]).length + Lexeme.plainLiteral (bytes cs) := by
  have hbytes : ∀ b ∈ bytes [c], b ≠ 0x5C ∧ b ≠ 0x22 ∧ b ≠ 0x0A := by
    intro b hb
    have hb : b ∈ String.utf8EncodeChar c := by simpa [bytes] using hb
    exact ⟨ne_of_mem_encode (by decide) hc.2.1 hb, ne_of_mem_encode (by decide) hc.1 hb,
      ne_of_mem_encode (by decide) hc.2.2 hb⟩
  rw [← List.singleton_append, bytes_append, plainLiteral_append hbytes]

theorem plainLiteral_escape (c : Char) (cs : List Char) :
    Lexeme.plainLiteral (bytes ('\\' :: c :: cs)) =
      (bytes ['\\', c]).length + Lexeme.plainLiteral (bytes cs) := by
  obtain ⟨b, bs, hb⟩ := List.exists_cons_of_ne_nil (String.utf8EncodeChar_ne_nil (c := c))
  -- The backslash takes one byte of the character, the others are beyond ASCII.
  have hbytes : ∀ x ∈ bs, x ≠ 0x5C ∧ x ≠ 0x22 ∧ x ≠ 0x0A := by
    intro x hx
    by_cases hc : c.toNat < 128
    · rw [encode_ascii hc, List.cons.injEq] at hb
      rw [← hb.2] at hx
      simp at hx
    · have hx := encode_beyond (by omega) x (hb ▸ List.mem_cons_of_mem b hx)
      refine ⟨?_, ?_, ?_⟩ <;> rintro rfl <;> exact absurd hx (by decide)
  have hsplit (ds : List Char) : bytes ('\\' :: c :: ds) = 0x5C :: b :: (bs ++ bytes ds) := by
    rw [bytes_cons_ascii (by decide : '\\'.toNat < 128), bytes_cons, hb]
    rfl
  rw [hsplit, hsplit, Lexeme.plainLiteral, plainLiteral_append hbytes]
  simp only [List.length_cons, List.length_append, bytes, List.flatMap_nil, List.length_nil]
  omega

/-- What an ordinary literal takes after its opening quote. Without a closing quote it breaks off
before a line feed or at the end of the text. -/
inductive PlainTail (rest : List Char) : List Char → Prop
  | close : PlainTail rest ['"']
  | broken (hends : ∀ c ∈ rest.head?, c = '\n') : PlainTail rest []
  | backslash (hrest : rest = []) : PlainTail rest ['\\']
  | char {c : Char} {cs : List Char} (hc : c ≠ '"' ∧ c ≠ '\\' ∧ c ≠ '\n')
      (h : PlainTail rest cs) : PlainTail rest (c :: cs)
  | escape {c : Char} {cs : List Char} (h : PlainTail rest cs) :
      PlainTail rest ('\\' :: c :: cs)

theorem PlainTail.length_eq {rest cs : List Char} (h : PlainTail rest cs) :
    Lexeme.plainLiteral (bytes (cs ++ rest)) = (bytes cs).length := by
  induction h with
  | close => rfl
  | broken hends =>
    cases rest with
    | nil => rfl
    | cons c rest =>
      obtain rfl : c = '\n' := hends c rfl
      rw [List.nil_append, bytes_cons_ascii (by decide)]
      rfl
  | backslash hrest =>
    rw [hrest]
    rfl
  | @char c cs hc h ih =>
    rw [List.cons_append, plainLiteral_char hc, ih, ← List.singleton_append (l := cs), bytes_append,
      List.length_append]
  | @escape c cs h ih =>
    have htext : '\\' :: c :: cs = ['\\', c] ++ cs := rfl
    rw [List.cons_append, List.cons_append, plainLiteral_escape, ih, htext, bytes_append,
      List.length_append]

theorem PlainLiteral.tail {cs : List Char} (h : PlainLiteral cs) (rest : List Char) :
    PlainTail rest cs := by
  induction h with
  | close => exact .close
  | char hc h ih => exact .char hc ih
  | escape hc h ih => exact .escape ih

theorem prefix_of_bytes {ds cs : List Char} (hds : ∀ d ∈ ds, d.toNat < 128)
    (h : bytes ds <+: bytes cs) : ds <+: cs := by
  induction ds generalizing cs with
  | nil => exact List.nil_prefix
  | cons d ds ih =>
    have hd := hds d List.mem_cons_self
    rw [bytes_cons_ascii hd] at h
    cases cs with
    | nil => simp [bytes] at h
    | cons c cs =>
      obtain ⟨b, bs, hb⟩ := List.exists_cons_of_ne_nil (String.utf8EncodeChar_ne_nil (c := c))
      rw [bytes_cons, hb, List.cons_append, List.cons_prefix_cons] at h
      obtain ⟨rfl, h⟩ := h
      have hcd : c = d := eq_of_isByte hd (hb ▸ List.mem_cons_self) (by simp [Lexeme.isByte])
      subst hcd
      rw [encode_ascii hd, List.cons.injEq] at hb
      rw [← hb.2] at h
      exact List.cons_prefix_cons.mpr ⟨rfl, ih (fun x hx => hds x (List.mem_cons_of_mem c hx)) h⟩

theorem three_le_length {cs : List Char} (h : BlockLiteral cs) : 3 ≤ cs.length := by
  induction h with
  | close => decide
  | escape h ih => simp only [List.length_cons]; omega
  | char hclose hescape h ih => simp only [List.length_cons]; omega

theorem blockLiteral_char {c : Char} {cs : List Char} (hclose : ¬ ['"', '"', '"'] <+: c :: cs)
    (hescape : ¬ ['\\', '"', '"', '"'] <+: c :: cs) : Lexeme.blockLiteral (bytes (c :: cs)) =
      (bytes [c]).length + Lexeme.blockLiteral (bytes cs) := by
  rw [← List.singleton_append, bytes_append]
  by_cases hc : c.toNat < 128
  · have hcode {d : Char} (hd : d.toNat < 128) (hb : c.toUInt8 = d.toUInt8) : c = d := by
      apply eq_of_isByte hd (b := c.toUInt8)
      · rw [encode_ascii hc]
        exact List.mem_singleton_self _
      · rw [hb, Lexeme.isByte, beq_self_eq_true]
    have hbytes : bytes [c] = [c.toUInt8] := bytes_cons_ascii hc []
    rw [hbytes, List.singleton_append, blockLiteral_byte]
    · exact Nat.add_comm _ _
    · intro hb hquotes
      obtain rfl : c = '"' := hcode (by decide) hb
      have hquotes : ['"', '"'] <+: cs := prefix_of_bytes (of_listed (by decide)) hquotes
      exact hclose (List.cons_prefix_cons.mpr ⟨rfl, hquotes⟩)
    · intro hb hquotes
      obtain rfl : c = '\\' := hcode (by decide) hb
      have hquotes : ['"', '"', '"'] <+: cs := prefix_of_bytes (of_listed (by decide)) hquotes
      exact hescape (List.cons_prefix_cons.mpr ⟨rfl, hquotes⟩)
  · apply blockLiteral_append
    intro b hb
    have hb : b ∈ String.utf8EncodeChar c := by simpa [bytes] using hb
    have hb := encode_beyond (by omega) b hb
    constructor <;> rintro rfl <;> exact absurd hb (by decide)

theorem blockLiteral_escape (cs : List Char) :
    Lexeme.blockLiteral (bytes ('\\' :: '"' :: '"' :: '"' :: cs)) =
      (bytes ['\\', '"', '"', '"']).length + Lexeme.blockLiteral (bytes cs) := by
  have hbytes : bytes ('\\' :: '"' :: '"' :: '"' :: cs) =
      0x5C :: 0x22 :: 0x22 :: 0x22 :: bytes cs := by
    repeat rw [bytes_cons_ascii (by decide)]
    rfl
  rw [hbytes, Lexeme.blockLiteral]
  exact Nat.add_comm _ _

/-- What a block literal takes after its opening quotes. Without closing quotes it breaks off at the
end of the text. -/
inductive BlockTail (rest : List Char) : List Char → Prop
  | close : BlockTail rest ['"', '"', '"']
  | broken (hrest : rest = []) : BlockTail rest []
  | escape {cs : List Char} (h : BlockTail rest cs) :
      BlockTail rest ('\\' :: '"' :: '"' :: '"' :: cs)
  | char {c : Char} {cs : List Char} (hclose : ¬ ['"', '"', '"'] <+: c :: (cs ++ rest))
      (hescape : ¬ ['\\', '"', '"', '"'] <+: c :: (cs ++ rest)) (h : BlockTail rest cs) :
      BlockTail rest (c :: cs)

theorem BlockTail.length_eq {rest cs : List Char} (h : BlockTail rest cs) :
    Lexeme.blockLiteral (bytes (cs ++ rest)) = (bytes cs).length := by
  induction h with
  | close => rfl
  | broken hrest =>
    rw [hrest]
    rfl
  | @escape cs h ih =>
    have htext : '\\' :: '"' :: '"' :: '"' :: cs = ['\\', '"', '"', '"'] ++ cs := rfl
    simp only [List.cons_append]
    rw [blockLiteral_escape, ih, htext, bytes_append, List.length_append]
  | @char c cs hclose hescape h ih =>
    rw [List.cons_append, blockLiteral_char hclose hescape, ih, ← List.singleton_append (l := cs),
      bytes_append, List.length_append]

theorem BlockLiteral.tail {cs : List Char} (h : BlockLiteral cs) (rest : List Char) :
    BlockTail rest cs := by
  induction h with
  | close => exact .close
  | escape h ih => exact .escape ih
  | @char c cs hclose hescape h ih =>
    have hlength := three_le_length h
    -- The literal is long enough for the quotes to be seen in it, whatever follows.
    have hwithin {ds : List Char} (hds : ds.length ≤ 4) (hpre : ds <+: c :: (cs ++ rest)) :
        ds <+: c :: cs :=
      List.prefix_of_prefix_length_le hpre (List.prefix_append (c :: cs) rest)
        (by simp only [List.length_cons]; omega)
    exact .char (fun h => hclose (hwithin (by decide) h)) (fun h => hescape (hwithin (by decide) h))
      ih

theorem lexes_plain {cs rest : List Char} (hquotes : ¬ ['"', '"'] <+: cs ++ rest)
    (h : PlainTail rest cs) : Lexes .text ('"' :: cs) rest := by
  apply lexes_of_extent (by decide) (by decide)
  rw [Lexeme.extent, ← h.length_eq]
  apply Lexeme.literalRest.eq_2
  intro tail htail
  exact hquotes (prefix_of_bytes (of_listed (by decide)) ⟨tail, htail.symm⟩)

theorem lexes_block {cs rest : List Char} (h : BlockTail rest cs) :
    Lexes .text ('"' :: '"' :: '"' :: cs) rest := by
  apply lexes_of_extent (by decide) (by decide)
  have hbytes (ds : List Char) : bytes ('"' :: '"' :: ds) = 0x22 :: 0x22 :: bytes ds := by
    repeat rw [bytes_cons_ascii (by decide)]
    rfl
  simp only [List.cons_append, hbytes]
  rw [Lexeme.extent, Lexeme.literalRest, h.length_eq]
  rfl

theorem lexes_literal {literal rest : List Char} (h : IsLiteral literal)
    (hstops : LiteralStops literal rest) : Lexes .text literal rest := by
  cases h with
  | @plain cs h =>
    refine lexes_plain (fun hquotes => ?_) (h.tail rest)
    cases h with
    | close =>
      obtain ⟨more, hmore⟩ := (List.cons_prefix_cons.mp hquotes).2
      have hrest : rest = '"' :: more := hmore.symm
      exact hstops rfl (by rw [hrest]; rfl)
    | char hc h => exact hc.1 (List.cons_prefix_cons.mp hquotes).1.symm
    | escape hc h => exact absurd (List.cons_prefix_cons.mp hquotes).1 (by decide)
  | block h => exact lexes_block (h.tail rest)

end QueryModel
