import Gateway.Proofs.Results
import Gateway.Proofs.Text.Numeral
import Gateway.Proofs.Text.Pieces
import Gateway.Proofs.Url.Address

/-! Blanks behind hosts. What blanks and controls stand behind a text is left out before it is read as a URL, but not what
    stands inside of it: a host with a blank or a control at its end is none. Nothing on the way from a text to a name takes
    it up, so it is still there when the labels are looked at, where it has no place. -/

namespace Gateway

/-! ### Tables and characters -/

namespace Text

/-- Lines and their characters. -/
inductive Spelled : List String → List (List Char) → Prop
  | nil : Spelled [] []
  | cons {cs : List Char} {lines : List String} {spelled : List (List Char)} :
      Spelled lines spelled → Spelled (String.ofList cs :: lines) (cs :: spelled)

theorem entries_of_spelled {lines : List String} {spelled : List (List Char)} (h : Spelled lines spelled) :
    entries lines = spelled.flatMap (·.splitOn ' ') := by
  induction h with
  | nil => rfl
  | cons _ ih => rw [entries, List.flatMap_cons, String.toList_ofList, List.flatMap_cons, ← ih, entries]

/-- What holds of all entries of a table is checked on its characters: to take the characters from the lines again and again
    would take too long. -/
theorem forall_entries {α : Type} {P : α → Bool} {read : List Char → Option α} {lines : List String}
    {spelled : List (List Char)} (h : Spelled lines spelled)
    (hall : ((spelled.flatMap (·.splitOn ' ')).filterMap read).all P = true) :
    ∀ a ∈ (entries lines).filterMap read, P a = true := by
  rw [entries_of_spelled h]
  exact List.all_eq_true.mp hall

theorem ne_of_blank {c d : Char} (hc : c.toNat ≤ 0x20) (hd : 0x20 < d.toNat) : c ≠ d := by
  rintro rfl
  omega

theorem toLower_blank {c : Char} (hc : c.toNat ≤ 0x20) : c.toLower = c :=
  forall_below (P := fun c => c.toLower = c) 0x21 (by decide +kernel) c (Nat.lt_succ_of_le hc)

end Text

namespace Url

open Text

namespace Domain

theorem composites_shown : ∀ p ∈ composites, (decide (0x20 < p.whole.toNat) && decide (0x20 < p.second.toNat)) = true :=
  forall_entries (by repeat constructor) (by decide +kernel)

theorem markClasses_shown : ∀ m ∈ markClasses, decide (0x20 < m.range.1) = true :=
  forall_entries (by repeat constructor) (by decide +kernel)

variable {c : Char}

/-! ### Composition -/

theorem markClass_blank (hc : c.toNat ≤ 0x20) : markClass c = 0 := by
  have hnone : (markClasses.find? fun m => m.range.1 ≤ c.toNat && c.toNat ≤ m.range.2) = none := by
    refine List.find?_eq_none.mpr fun m hm hin => ?_
    have hshown := of_decide_eq_true (markClasses_shown m hm)
    have hle := of_decide_eq_true (Bool.and_eq_true_iff.mp hin).1
    omega
  rw [markClass, hnone]

theorem apart_blank (hc : c.toNat ≤ 0x20) (depth : Nat) : apart depth c = [c] := by
  cases depth with
  | zero => rfl
  | succ depth =>
    have hletters : letters? c = none := if_neg fun h => by omega
    have hwhole : (composites.find? fun p => p.whole == c) = none := by
      refine List.find?_eq_none.mpr fun p hp heq => ?_
      have hshown := of_decide_eq_true (Bool.and_eq_true_iff.mp (composites_shown p hp)).1
      rw [beq_iff_eq.mp heq] at hshown
      omega
    unfold apart
    rw [hletters, hwhole]

theorem orderMark_blank (hc : c.toNat ≤ 0x20) (done : List Char) : orderMark c done = c :: done := by
  cases done with
  | nil => rfl
  | cons last before => rw [orderMark, if_neg fun h => h.1 (markClass_blank hc)]

theorem takeApart_blank (hc : c.toNat ≤ 0x20) (cs : List Char) : takeApart (cs ++ [c]) = takeApart cs ++ [c] := by
  simp [takeApart, List.flatMap_append, apart_blank hc, orderMark_blank hc]

theorem together?_blank (hc : c.toNat ≤ 0x20) (a : Char) : together? a c = none := by
  have hsecond : (composites.find? fun p => p.first == a && p.second == c) = none := by
    refine List.find?_eq_none.mpr fun p hp heq => ?_
    have hshown := of_decide_eq_true (Bool.and_eq_true_iff.mp (composites_shown p hp)).2
    rw [beq_iff_eq.mp (Bool.and_eq_true_iff.mp heq).2] at hshown
    omega
  simp only [together?]
  rw [if_neg fun h => by omega, if_neg fun h => by omega, hsecond]
  rfl

/-- Composition neither takes up what stands behind a text nor moves it. -/
theorem compose_blank (hc : c.toNat ≤ 0x20) (cs : List Char) : compose (cs ++ [c]) = compose cs ++ [c] := by
  have hadd (g : Gathering) : (g.add c).text = c :: g.text := by
    have hjoined : (g.base.bind fun base => together? base c) = none := by
      cases g.base with
      | none => rfl
      | some base => exact together?_blank hc base
    simp only [Gathering.add, hjoined, ite_self, markClass_blank hc, if_true]
    rfl
  rw [compose, takeApart_blank hc, List.foldl_append, List.foldl_cons, List.foldl_nil, hadd, List.reverse_cons]
  rfl

theorem normal?_blank (hc : c.toNat ≤ 0x20) {cs normal : List Char} (h : normal? (cs ++ [c]) = some normal) :
    ∃ front, normal = front ++ [c] := by
  have hmap : mapChar? c = some [c] := by
    rw [mapChar?, if_pos (by omega), toLower_blank hc]
  obtain ⟨mapped, hmapped, rfl⟩ := Option.map_eq_some_iff.mp h
  obtain ⟨pieces, hpieces, rfl⟩ := Option.map_eq_some_iff.mp hmapped
  rw [List.mapM_append] at hpieces
  obtain ⟨front, hfront, hpieces⟩ := Option.bind_eq_some_iff.mp hpieces
  obtain rfl : front ++ [[c]] = pieces := by simpa [hmap] using hpieces
  exact ⟨compose front.flatten, by rw [List.flatten_append]; exact compose_blank hc _⟩

/-! ### Labels -/

namespace Bootstring

theorem digitValue?_blank (hc : c.toNat ≤ 0x20) : digitValue? c = none :=
  forall_below (P := fun c => digitValue? c = none) 0x21 (by decide +kernel) c (Nat.lt_succ_of_le hc)

/-- No numeral reaches beyond what is no digit. -/
theorem readDistance_blank (hc : c.toNat ≤ 0x20) {bias place weight sum n : Nat} {cs rest : List Char}
    (hcs : cs.getLast? = some c) (h : readDistance bias place weight sum cs = some (n, rest)) :
    rest.getLast? = some c := by
  induction cs generalizing place weight sum with
  | nil => cases hcs
  | cons d cs ih =>
    simp only [readDistance, Option.bind_eq_bind, Option.bind_eq_some_iff] at h
    obtain ⟨value, hvalue, h⟩ := h
    have hbehind : cs.getLast? = some c := by
      cases cs with
      | nil =>
        obtain rfl : d = c := by simpa using hcs
        rw [digitValue?_blank hc] at hvalue
        cases hvalue
      | cons e cs => rwa [List.getLast?_cons_cons] at hcs
    split at h
    · cases h
    · split at h
      · obtain ⟨-, rfl⟩ := Prod.mk.inj (Option.some.inj h)
        exact hbehind
      · exact ih hbehind h

theorem insertAll_blank (hc : c.toNat ≤ 0x20) {code index bias : Nat} {placed cs : List Char}
    (hcs : cs.getLast? = some c) : insertAll code index bias placed cs = none := by
  fun_induction insertAll code index bias placed cs with
  | case1 code index bias placed => cases hcs
  | case2 => rfl
  | case3 => rfl
  | case4 code index bias placed d cs reached rest hread count code' inserted hvalid place ih =>
    exact ih (readDistance_blank hc hcs hread)

theorem decode_blank (hc : c.toNat ≤ 0x20) {cs : List Char} (hcs : cs.getLast? = some c) : decode cs = none := by
  -- Behind the last hyphen stand the numerals, and the blank is the last character of them.
  obtain ⟨front, rfl⟩ := List.getLast?_eq_some_iff.mp hcs
  have hhyphen : c ≠ '-' := ne_of_blank hc (by decide)
  have htail : (lastHyphen (front ++ [c])).2.getLast? = some c := by
    simp [lastHyphen, hhyphen]
  have hnone : ∀ placed, insertAll initialCode 0 72 placed (lastHyphen (front ++ [c])).2 = none :=
    fun placed => insertAll_blank hc htail
  simp only [decode, hnone, ite_self]

end Bootstring

theorem forbidden_blank (hc : c.toNat ≤ 0x20) : forbidden c = true := by simp [forbidden, hc]

theorem meaning?_blank (hc : c.toNat ≤ 0x20) {label : List Char} (h : label.getLast? = some c) : meaning? label = none := by
  unfold meaning?
  split
  · refine if_neg fun hallowed => ?_
    simp only [labelAllowed, Bool.and_eq_true, List.all_eq_true] at hallowed
    have hnot := hallowed.1.2 c (List.mem_of_getLast? h)
    rw [forbidden_blank hc] at hnot
    cases hnot
  · rename_i code hcoded
    have hcode : code.getLast? = some c := by
      unfold coded? at hcoded
      split at hcoded
      · rename_i rest
        obtain rfl := Option.some.inj hcoded
        cases rest with
        | nil =>
          obtain rfl : '-' = c := by simpa using h
          exact absurd hc (by decide)
        | cons d rest => simpa using h
      · cases hcoded
    rw [Bootstring.decode_blank hc hcode]
    rfl

/-! ### Names -/

/-- The last label of a text ends as the text does. -/
theorem exists_last_label {cs : List Char} (hc : c ≠ '.') (h : cs.getLast? = some c) :
    ∃ label ∈ cs.splitOn '.', label.getLast? = some c := by
  induction cs with
  | nil => cases h
  | cons d cs ih =>
    rw [List.splitOn_cons_eq_if_modifyHead]
    cases cs with
    | nil =>
      obtain rfl : d = c := by simpa using h
      exact ⟨[d], by simp [hc], rfl⟩
    | cons e cs =>
      obtain ⟨label, hlabel, hlast⟩ := ih (by rwa [List.getLast?_cons_cons] at h)
      obtain ⟨first, rest, hsplit⟩ := List.exists_cons_of_ne_nil (List.splitOn_ne_nil '.' (e :: cs))
      rw [hsplit] at hlabel ⊢
      by_cases hd : d = '.'
      · exact ⟨label, by simpa [hd] using Or.inr (List.mem_cons.mp hlabel), hlast⟩
      · rcases List.mem_cons.mp hlabel with rfl | hrest
        · exact ⟨d :: label, by simp [hd], by rw [List.getLast?_cons, hlast]; rfl⟩
        · exact ⟨label, by simp [hd, hrest], hlast⟩

theorem mapM_eq_none {α β : Type} {f : α → Option β} {l : List α} {a : α} (ha : a ∈ l) (h : f a = none) :
    l.mapM f = none := by
  induction l with
  | nil => cases ha
  | cons b l ih =>
    rw [List.mapM_cons]
    rcases List.mem_cons.mp ha with rfl | ha
    · rw [h]
      rfl
    · rw [ih ha]
      cases f b <;> rfl

theorem generalName?_blank (hc : c.toNat ≤ 0x20) (cs : List Char) : generalName? (cs ++ [c]) = none := by
  have hdot : c ≠ '.' := ne_of_blank hc (by decide)
  unfold generalName?
  cases hnormal : normal? (cs ++ [c]) with
  | none => rfl
  | some normal =>
    obtain ⟨front, rfl⟩ := normal?_blank hc hnormal
    obtain ⟨label, hlabel, hlast⟩ := exists_last_label hdot (List.getLast?_concat (a := c) (l := front))
    simp only [Option.bind_eq_bind, Option.bind_some, mapM_eq_none hlabel (meaning?_blank hc hlast), Option.bind_none]

/-- **No name ends in a blank.** -/
theorem name?_blank (hc : c.toNat ≤ 0x20) (cs : List Char) : name? (cs ++ [c]) = none := by
  unfold name?
  dsimp only
  split
  · exact if_pos (by simp [toLower_blank hc, forbidden_blank hc])
  · exact generalName?_blank hc cs

end Domain

variable {c : Char}

/-! ### Hosts -/

/-- What a byte below it stands behind is no escape that the byte would be part of. -/
theorem unescape_blank {b : UInt8} (hb : b.toNat ≤ 0x20) (bs : List UInt8) : unescape (bs ++ [b]) = unescape bs ++ [b] := by
  have hhex : hexValue? (Char.ofNat b.toNat) = none :=
    forall_byte (P := fun b => b.toNat ≤ 0x20 → hexValue? (Char.ofNat b.toNat) = none) (by decide +kernel) b hb
  fun_induction unescape bs with
  | case1 => rfl
  | case2 a => rfl
  | case3 a a' =>
    show unescape [a, a', b] = [a, a', b]
    unfold unescape
    rw [hhex]
    split
    · split
      · rename_i hlow
        cases hlow
      · rfl
    · rfl
  | case4 a' b' rest high low hhigh hlow ih =>
    show unescape (0x25 :: a' :: b' :: (rest ++ [b])) = UInt8.ofNat (high * 16 + low) :: unescape rest ++ [b]
    rw [unescape, if_pos rfl, hhigh, hlow]
    exact congrArg _ ih
  | case5 a' b' rest hnone ih =>
    show unescape (0x25 :: a' :: b' :: (rest ++ [b])) = 0x25 :: unescape (a' :: b' :: rest) ++ [b]
    rw [unescape, if_pos rfl]
    split
    · rename_i high low hhigh hlow
      exact absurd hlow (hnone high low hhigh)
    · exact congrArg _ ih
  | case6 a a' b' rest hne ih =>
    show unescape (a :: a' :: b' :: (rest ++ [b])) = a :: unescape (a' :: b' :: rest) ++ [b]
    rw [unescape, if_neg hne]
    exact congrArg _ ih

theorem le_of_mem_utf8EncodeChar {d : Char} (hd : 128 ≤ d.toNat) {b : UInt8} (hb : b ∈ String.utf8EncodeChar d) :
    128 ≤ b.toNat := by
  have hval : 128 ≤ d.val.toNat := hd
  unfold String.utf8EncodeChar at hb
  dsimp only at hb
  split at hb
  · omega
  · split at hb
    · simp only [List.mem_cons, List.not_mem_nil, or_false] at hb
      rcases hb with rfl | rfl <;> simp only [UInt8.toNat_ofNat'] <;> omega
    · split at hb
      · simp only [List.mem_cons, List.not_mem_nil, or_false] at hb
        rcases hb with rfl | rfl | rfl <;> simp only [UInt8.toNat_ofNat'] <;> omega
      · simp only [List.mem_cons, List.not_mem_nil, or_false] at hb
        rcases hb with rfl | rfl | rfl | rfl <;> simp only [UInt8.toNat_ofNat'] <;> omega

/-- What bytes stand for ends in the character of the last byte, if that is one of ASCII. -/
theorem Host.ofUtf8?_blank (hc : c.toNat ≤ 0x20) {bs : List UInt8} {name : List Char}
    (h : Host.ofUtf8? (bs ++ [UInt8.ofNat c.toNat]) = some name) : ∃ front, name = front ++ [c] := by
  obtain ⟨text, htext, rfl⟩ := Option.map_eq_some_iff.mp h
  have hbytes : text.toList.flatMap String.utf8EncodeChar = bs ++ [UInt8.ofNat c.toNat] := by
    rw [← toList_toUTF8, String.ofList_toList, toUTF8_of_fromUTF8? htext, toList_eq_data, List.data_toByteArray]
  rcases text.toList.eq_nil_or_concat with hnil | ⟨front, d, hconcat⟩
  · simp [hnil] at hbytes
  · refine ⟨front, ?_⟩
    rw [hconcat, List.concat_eq_append] at hbytes ⊢
    rw [List.flatMap_append, List.flatMap_singleton] at hbytes
    have hlast := congrArg List.getLast? hbytes
    rw [List.getLast?_concat] at hlast
    rcases Nat.lt_or_ge d.toNat 128 with hlt | hge
    · rw [utf8EncodeChar_of_lt hlt, List.getLast?_concat] at hlast
      have hnat : d.toNat = c.toNat := by
        have hnat := congrArg UInt8.toNat (Option.some.inj hlast)
        simp only [UInt8.toNat_ofNat'] at hnat
        omega
      rw [Char.toNat_inj.mp hnat]
    · have hmem : UInt8.ofNat c.toNat ∈ String.utf8EncodeChar d := by
        obtain ⟨last, hencoded⟩ : ∃ last, (String.utf8EncodeChar d).getLast? = some last :=
          Option.ne_none_iff_exists'.mp (mt List.getLast?_eq_none_iff.mp String.utf8EncodeChar_ne_nil)
        rw [List.getLast?_append, hencoded, Option.some_or] at hlast
        exact List.mem_of_getLast? (hencoded.trans hlast)
      have hle := le_of_mem_utf8EncodeChar hge hmem
      simp only [UInt8.toNat_ofNat'] at hle
      omega

theorem Host.ofDomain_blank (hc : c.toNat ≤ 0x20) (cs : List Char) (host : Host) : Host.ofDomain (cs ++ [c]) ≠ .ok host := by
  intro h
  have hbytes : (String.ofList (cs ++ [c])).toUTF8.toList =
      (String.ofList cs).toUTF8.toList ++ [UInt8.ofNat c.toNat] := by
    rw [toList_toUTF8, toList_toUTF8, List.flatMap_append, List.flatMap_singleton, utf8EncodeChar_of_lt (by omega)]
  have hbyte : (UInt8.ofNat c.toNat).toNat ≤ 0x20 := by
    rw [UInt8.toNat_ofNat']
    omega
  have hname : (Host.ofUtf8? (unescape (String.ofList (cs ++ [c])).toUTF8.toList)).bind Domain.name? = none := by
    rw [hbytes, unescape_blank hbyte]
    refine Option.bind_eq_none_iff.mpr fun name hname => ?_
    obtain ⟨front, rfl⟩ := Host.ofUtf8?_blank hc hname
    exact Domain.name?_blank hc front
  unfold Host.ofDomain at h
  split at h
  · rename_i rest hopen
    have hlast : ('[' :: rest).getLast? = some c := by rw [← hopen, List.getLast?_concat]
    have hbracket : rest.getLast? ≠ some ']' := by
      intro hrest
      rw [List.getLast?_cons, hrest] at hlast
      obtain rfl : ']' = c := Option.some.inj hlast
      exact absurd hc (by decide)
    rw [Host.bracketed, if_neg hbracket] at h
    cases h
  · rw [hname] at h
    cases h

/-! ### Authorities -/

theorem exists_cutUserinfo_blank (hc : c.toNat ≤ 0x20) (cs : List Char) :
    ∃ credentials site, cutUserinfo (cs ++ [c]) = (credentials, site ++ [c]) := by
  have hat : c ≠ '@' := ne_of_blank hc (by decide)
  have hsite : ((cs ++ [c]).reverse.takeWhile (· != '@')).reverse = (cs.reverse.takeWhile (· != '@')).reverse ++ [c] := by
    simp [hat]
  unfold cutUserinfo
  rw [hsite]
  dsimp only
  split
  · exact ⟨none, cs, rfl⟩
  · exact ⟨_, _, rfl⟩

theorem cutPort_blank (hc : c.toNat ≤ 0x20) (cs : List Char) (bracketed : Bool) :
    (∃ name, cutPort bracketed (cs ++ [c]) = (name ++ [c], none)) ∨
      ∃ name port, cutPort bracketed (cs ++ [c]) = (name, some (port ++ [c])) := by
  induction cs generalizing bracketed with
  | nil =>
    have hcolon : c ≠ ':' := ne_of_blank hc (by decide)
    exact Or.inl ⟨[], by simp [cutPort, hcolon]⟩
  | cons d cs ih =>
    rw [List.cons_append, cutPort]
    split
    · exact Or.inr ⟨[], cs, rfl⟩
    · rcases ih (if d = '[' then true else if d = ']' then false else bracketed) with ⟨name, h⟩ | ⟨name, port, h⟩
      · exact Or.inl ⟨d :: name, by rw [h]; rfl⟩
      · exact Or.inr ⟨d :: name, port, by rw [h]⟩

theorem readPort_blank (hc : c.toNat ≤ 0x20) (scheme : String) (cs : List Char) :
    readPort scheme (cs ++ [c]) = .error .port := by
  have hdigit : c.isDigit = false := forall_below (P := fun c => c.isDigit = false) 0x21 (by decide +kernel) c (by omega)
  have hnumeral : numeral? 10 (cs ++ [c]) = none := by
    refine Option.eq_none_iff_forall_not_mem.mpr fun n hn => ?_
    have hall := isDigit_of_numeral? hn c (by simp)
    rw [hdigit] at hall
    cases hall
  rw [readPort, if_neg (by simp), hnumeral]
  rfl

/-- **No authority ends in a blank.** -/
theorem readAuthority_blank (hc : c.toNat ≤ 0x20) {scheme : String} (hs : isSpecial scheme = true) (cs : List Char)
    (a : Authority) : readAuthority scheme (cs ++ [c]) ≠ .ok a := by
  intro h
  obtain ⟨credentials, site, hcut⟩ := exists_cutUserinfo_blank hc cs
  unfold readAuthority at h
  simp only [hs, if_true, hcut] at h
  rcases cutPort_blank hc site false with ⟨name, hport⟩ | ⟨name, port, hport⟩
  · simp only [hport] at h
    split at h
    · cases h
    · obtain ⟨host, hhost, -⟩ := bind_eq_ok.mp h
      exact Host.ofDomain_blank hc name host hhost
  · simp only [hport] at h
    split at h
    · cases h
    · obtain ⟨host, -, h⟩ := bind_eq_ok.mp h
      split at h
      · cases h
      · obtain ⟨read, hread, -⟩ := bind_eq_ok.mp h
        rw [Option.getD_some, readPort_blank hc] at hread
        cases hread

end Url
end Gateway
