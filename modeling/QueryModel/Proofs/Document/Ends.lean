import QueryModel.Proofs.Document.Outside

/-!
# Where lexemes end

Where a lexeme ends does not depend on what follows: a text that is cut off behind a lexeme has the
same lexemes up to there.
-/

set_option autoImplicit false

namespace QueryModel

open Text

namespace Lexeme

section Locality

theorem length_takeWhile_append {α : Type} (p : α → Bool) (as bs : List α) :
    (as.takeWhile p).length = min ((as ++ bs).takeWhile p).length as.length := by
  induction as with
  | nil => simp
  | cons a as ih =>
    by_cases ha : p a = true
    · simp only [List.cons_append, List.takeWhile_cons, ha, if_true, List.length_cons, ih]
      omega
    · simp [ha]

theorem plainLiteral_cut (p b : List UInt8) :
    plainLiteral p = min (plainLiteral (p ++ b)) p.length := by
  fun_induction plainLiteral p with
  | case1 => simp
  | case2 =>
    cases b with
    | nil => rfl
    | cons x b =>
      rw [List.singleton_append, plainLiteral]
      simp
  | case3 x rest ih =>
    rw [List.cons_append, List.cons_append, plainLiteral, ih]
    simp only [List.length_cons]
    omega
  | case4 rest | case5 rest =>
    rw [List.cons_append, plainLiteral]
    simp
  | case6 x rest hlast hescape hquote hfeed ih =>
    have hx : ∀ y ∈ [x], y ≠ 0x5C ∧ y ≠ 0x22 ∧ y ≠ 0x0A := by
      refine List.forall_mem_singleton.mpr ⟨fun hx => ?_, hquote, hfeed⟩
      cases rest with
      | nil => exact hlast hx rfl
      | cons y rest => exact hescape y rest hx rfl
    have hstep := plainLiteral_append hx (rest ++ b)
    rw [List.singleton_append, List.length_singleton] at hstep
    rw [List.cons_append, hstep, ih, List.length_cons]
    omega

theorem quotes_within {quotes rest b : List UInt8} (h : quotes <+: rest ++ b)
    (hnot : ¬ quotes <+: rest) : rest <+: quotes :=
  (List.prefix_or_prefix_of_prefix (List.prefix_append rest b) h).resolve_right hnot

theorem blockLiteral_cut (p b : List UInt8) :
    blockLiteral p = min (blockLiteral (p ++ b)) p.length := by
  fun_induction blockLiteral p with
  | case1 rest ih =>
    simp only [List.cons_append, blockLiteral, List.length_cons]
    omega
  | case2 rest => simp [blockLiteral]
  | case3 x rest hescape hclose ih =>
    by_cases hclosed : x = 0x22 ∧ [0x22, 0x22] <+: rest ++ b
    · obtain ⟨rfl, hquotes⟩ := hclosed
      have hopen : ¬ [0x22, 0x22] <+: rest := by
        rintro ⟨more, hmore⟩
        exact hclose more rfl hmore.symm
      have hwithin := quotes_within hquotes hopen
      obtain ⟨more, hmore⟩ := hquotes
      rw [List.cons_append, ← hmore]
      simp only [List.prefix_cons_iff, List.prefix_nil] at hwithin
      rcases hwithin with rfl | ⟨_, rfl, rfl | ⟨_, rfl, rfl⟩⟩
      · rfl
      · rfl
      · exact (hclose [] rfl rfl).elim
    by_cases hescaped : x = 0x5C ∧ [0x22, 0x22, 0x22] <+: rest ++ b
    · obtain ⟨rfl, hquotes⟩ := hescaped
      have hopen : ¬ [0x22, 0x22, 0x22] <+: rest := by
        rintro ⟨more, hmore⟩
        exact hescape more rfl hmore.symm
      have hwithin := quotes_within hquotes hopen
      obtain ⟨more, hmore⟩ := hquotes
      have hlong : 4 ≤ blockLiteral (0x5C :: rest ++ b) := by
        rw [List.cons_append, ← hmore, List.cons_append, List.cons_append, List.cons_append,
          blockLiteral]
        exact Nat.le_add_left 4 _
      simp only [List.prefix_cons_iff, List.prefix_nil] at hwithin
      rcases hwithin with rfl | ⟨_, rfl, rfl | ⟨_, rfl, rfl | ⟨_, rfl, rfl⟩⟩⟩
      · exact (Nat.min_eq_right (Nat.le_trans (by decide) hlong)).symm
      · exact (Nat.min_eq_right (Nat.le_trans (by decide) hlong)).symm
      · exact (Nat.min_eq_right (Nat.le_trans (by decide) hlong)).symm
      · exact (hescape [] rfl rfl).elim
    · rw [List.cons_append, blockLiteral_byte _ (fun hx h => hclosed ⟨hx, h⟩)
        (fun hx h => hescaped ⟨hx, h⟩), ih, List.length_cons]
      omega
  | case4 => simp

theorem literalRest_cut (p b : List UInt8) :
    literalRest p = min (literalRest (p ++ b)) p.length := by
  fun_cases literalRest p with
  | case1 rest =>
    rw [List.cons_append, List.cons_append, literalRest, blockLiteral_cut rest b]
    simp only [List.length_cons]
    omega
  | case2 _ hplain =>
    by_cases hquotes : [0x22, 0x22] <+: p ++ b
    · have hopen : ¬ [0x22, 0x22] <+: p := by
        rintro ⟨more, hmore⟩
        exact hplain more hmore.symm
      have hwithin := quotes_within hquotes hopen
      obtain ⟨more, hmore⟩ := hquotes
      rw [← hmore]
      simp only [List.prefix_cons_iff, List.prefix_nil] at hwithin
      rcases hwithin with rfl | ⟨_, rfl, rfl | ⟨_, rfl, rfl⟩⟩
      · simp [plainLiteral]
      · rfl
      · exact (hplain [] rfl).elim
    · rw [literalRest.eq_2 (p ++ b) fun more hmore => hquotes ⟨more, hmore.symm⟩]
      exact plainLiteral_cut p b

/-- A lexeme ends where it did if the text is cut off behind it, and else where the text does. -/
theorem extent_cut (mark : Mark) (p b : List UInt8) :
    extent mark p = min (extent mark (p ++ b)) p.length := by
  cases mark with
  | text => exact literalRest_cut p b
  | opening brace | closing brace | gap | other => simp [extent]
  | _ => exact length_takeWhile_append _ p b

theorem extent_le_length (mark : Mark) (bs : List UInt8) : extent mark bs ≤ bs.length := by
  have hcut := extent_cut mark bs []
  omega

theorem all_cons (b : UInt8) (bs : List UInt8) : all (b :: bs) =
    ⟨markOf b, b :: bs.take (extent (markOf b) bs)⟩ ::
      all (bs.drop (extent (markOf b) bs)) := by
  rw [all]

theorem flatMap_cut {a b : List UInt8} {ls : List Lexeme} (h : all (a ++ b) = ls ++ all b) :
    ls.flatMap Lexeme.bytes = a := by
  have hall := congrArg (List.flatMap Lexeme.bytes) h
  rw [flatMap_all, List.flatMap_append, flatMap_all] at hall
  exact (List.append_cancel_right hall).symm

theorem all_cut {a b : List UInt8} {ls : List Lexeme} (h : all (a ++ b) = ls ++ all b) :
    all a = ls := by
  induction ls generalizing a with
  | nil =>
    obtain rfl : [] = a := flatMap_cut h
    rw [all]
  | cons l ls ih =>
    have hbytes := flatMap_cut h
    cases a with
    | nil =>
      have hlength := congrArg List.length h
      simp only [List.nil_append, List.length_append, List.length_cons] at hlength
      omega
    | cons x a =>
      rw [List.cons_append, all_cons, List.cons_append] at h
      obtain ⟨hl, hls⟩ := List.cons.inj h
      have hwithin : extent (markOf x) (a ++ b) ≤ a.length := by
        have hlength := congrArg List.length hbytes
        have hextent := extent_le_length (markOf x) (a ++ b)
        simp only [← hl, List.flatMap_cons, List.length_append, List.length_cons,
          List.length_take] at hlength hextent
        omega
      have hcut := extent_cut (markOf x) a b
      rw [Nat.min_eq_left hwithin] at hcut
      rw [List.take_append_of_le_length hwithin] at hl
      rw [List.drop_append_of_le_length hwithin] at hls
      rw [all_cons, hcut, hl, ih hls]

theorem mem_dropLast_append {α : Type} {a : α} {as : List α} (h : a ∈ as.dropLast) (bs : List α) :
    a ∈ (as ++ bs).dropLast := by
  cases bs with
  | nil => rwa [List.append_nil]
  | cons b bs =>
    rw [List.dropLast_append_of_ne_nil (List.cons_ne_nil b bs)]
    exact List.mem_append_left _ (List.dropLast_subset as h)

theorem CommentsEnd.cut {a b : List UInt8} (h : CommentsEnd (all (a ++ b))) :
    CommentsEnd (all a) := by
  induction hn : a.length using Nat.strongRecOn generalizing a with
  | ind n ih =>
    subst hn
    cases a with
    | nil =>
      rw [all]
      exact List.forall_mem_nil _
    | cons x a =>
      have hcut := extent_cut (markOf x) a b
      rw [List.cons_append, all_cons] at h
      obtain ⟨hfirst, hrest⟩ := List.forall_mem_cons.mp h
      rw [all_cons]
      rcases Nat.le_total (extent (markOf x) (a ++ b)) a.length with hwithin | hbeyond
      · rw [Nat.min_eq_left hwithin] at hcut
        rw [List.take_append_of_le_length hwithin] at hfirst
        rw [List.drop_append_of_le_length hwithin] at hrest
        rw [hcut]
        refine List.forall_mem_cons.mpr ⟨hfirst, ih _ ?_ hrest rfl⟩
        simp only [List.length_drop, List.length_cons]
        omega
      · rw [Nat.min_eq_right hbeyond] at hcut
        rw [List.take_append, List.take_of_length_le hbeyond] at hfirst
        rw [hcut, List.take_length, List.drop_length, all]
        refine List.forall_mem_singleton.mpr fun hmark hreturn => hfirst hmark ?_
        exact mem_dropLast_append hreturn _

end Locality

end Lexeme

section Characters

theorem lexes_ended {line rest : List Char} (hline : '\n' ∉ line)
    (hends : ∀ c ∈ rest.head?, c = '\n') : Lexes .comment ('#' :: line) rest := by
  cases rest with
  | nil => exact lexes_last_comment hline
  | cons c rest =>
    obtain rfl : c = '\n' := hends c rfl
    exact lexes_comment hline rest

theorem exists_comment (cs : List Char) : ∃ line rest, cs = line ++ rest ∧ '\n' ∉ line ∧
    (∀ c ∈ rest.head?, c = '\n') ∧ Lexes .comment ('#' :: line) rest := by
  obtain ⟨hsplit, hall, hhead⟩ := Syntax.takeWhile_split (fun d => d != '\n') cs
  generalize cs.takeWhile (fun d => d != '\n') = line at hsplit hall
  generalize cs.dropWhile (fun d => d != '\n') = rest at hsplit hhead
  have hline : '\n' ∉ line := fun hmem => by simpa using hall '\n' hmem
  have hrest : ∀ c ∈ rest.head?, c = '\n' := fun c hc => by simpa using hhead c hc
  exact ⟨line, rest, hsplit, hline, hrest, lexes_ended hline hrest⟩

theorem all_bytes_nil : Lexeme.all (bytes []) = [] := by
  rw [bytes, List.flatMap_nil, Lexeme.all]

theorem all_beyond {c : Char} (hc : 128 ≤ c.toNat) (cs : List Char) :
    Lexeme.all (bytes (c :: cs)) =
      (bytes [c]).map (fun b => ⟨.other, [b]⟩) ++ Lexeme.all (bytes cs) := by
  have hbytes : ∀ b ∈ bytes [c], 128 ≤ b.toNat := by
    intro b hb
    exact encode_beyond hc b (by simpa [bytes] using hb)
  rw [← List.singleton_append, bytes_append]
  generalize bytes [c] = bs at hbytes
  induction bs with
  | nil => rfl
  | cons b bs ih =>
    obtain ⟨hb, hbs⟩ := List.forall_mem_cons.mp hbytes
    rw [List.cons_append, Lexeme.all_cons, markOf_beyond hb]
    exact congrArg _ (ih hbs)

def Cuts (cs ds : List Char) : Prop :=
  Lexeme.all (bytes (cs ++ ds)) = Lexeme.all (bytes cs) ++ Lexeme.all (bytes ds)

theorem cuts_of_all {cs ds : List Char} (ls : List Lexeme)
    (h : Lexeme.all (bytes (cs ++ ds)) = ls ++ Lexeme.all (bytes ds)) : Cuts cs ds := by
  have hcut := h
  rw [bytes_append] at hcut
  rw [Cuts, h, Lexeme.all_cut hcut]

theorem cuts_nil (ds : List Char) : Cuts [] ds := cuts_of_all [] rfl

theorem cuts_of_lexes {mark : Lexeme.Mark} {cs ds : List Char} (h : Lexes mark cs ds) :
    Cuts cs ds :=
  cuts_of_all [⟨mark, bytes cs⟩] h

theorem Cuts.append {cs ds es : List Char} (h : Cuts cs (ds ++ es)) (h' : Cuts ds es) :
    Cuts (cs ++ ds) es := by
  apply cuts_of_all (Lexeme.all (bytes cs) ++ Lexeme.all (bytes ds))
  rw [List.append_assoc, h, h', List.append_assoc]

def lexemesOf (segs : List (List Char)) : List Lexeme :=
  (segs.map fun seg => Lexeme.all (bytes seg)).flatten

end Characters

end QueryModel
