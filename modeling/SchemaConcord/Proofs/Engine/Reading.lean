import SchemaConcord.Engine.Address
import SchemaConcord.Proofs.Text.Percent
import SchemaConcord.Proofs.Text.Replacement

/-!
# Addresses read in parts

The parts of an address are found by the marks that divide them. A text without such marks that is put into an address
stays within the parts it is put into: what is read is then a pattern of its own, whichever text it is. For the scheme
and the port that is `exists_cutAt?_fill` and `Address.exists_portText_fill`; the password of an address is what stands
between the user and the next `@` (`Address.splitUser_password`).
-/

namespace SchemaConcord

open Text

/-! ## Texts cut at marks -/

namespace Text

variable {mark : Char} {cs before last : List Char}

theorem dropWhile_eq_drop (p : Char → Bool) (cs : List Char) : cs.drop (cs.takeWhile p).length = cs.dropWhile p := by
  have h : (cs.takeWhile p ++ cs.dropWhile p).drop (cs.takeWhile p).length = cs.dropWhile p := List.drop_left
  rwa [List.takeWhile_append_dropWhile] at h

theorem after?_mark (mark c : Char) (cs : List Char) :
    after? [mark] (c :: cs) = if mark = c then some cs else none := by
  by_cases h : mark = c <;> simp [after?, h]

/-- The text before the last mark and the text behind it. -/
def atLast? (mark : Char) (cs : List Char) : Option (List Char × List Char) :=
  match (splitAt (· == mark) cs).reverse with
  | last :: _ :: _ => some (cs.take (cs.length - last.length - 1), last)
  | _ => none

theorem atLast?_of_not_mem (h : mark ∉ cs) : atLast? mark cs = none := by
  have hfree : ∀ c ∈ cs, (c == mark) = false := fun c hc => beq_false_of_ne fun heq => h (heq ▸ hc)
  rw [atLast?, splitAt_free hfree]
  rfl

theorem atLast?_append (h : mark ∉ last) (before : List Char) :
    atLast? mark (before ++ mark :: last) = some (before, last) := by
  have hsplit := splitAt_last (p := (· == mark)) (beq_self_eq_true mark)
    (fun c hc => beq_false_of_ne fun heq => h (heq ▸ hc)) before
  obtain ⟨piece, pieces, hpieces⟩ :=
    List.exists_cons_of_ne_nil (mt List.reverse_eq_nil_iff.mp (splitAt_ne_nil (· == mark) before))
  rw [atLast?, hsplit, List.reverse_append, hpieces]
  have hlength : (before ++ mark :: last).length - last.length - 1 = before.length := by
    rw [List.length_append, List.length_cons]
    omega
  show some (List.take ((before ++ mark :: last).length - last.length - 1) _, last) = _
  rw [hlength, List.take_left]

theorem exists_last_mark {α : Type} {a : α} {l : List α} (h : a ∈ l) :
    ∃ before last, l = before ++ a :: last ∧ a ∉ last := by
  obtain ⟨before, last, hsplit, hfree⟩ := List.eq_append_cons_of_mem (List.mem_reverse.mpr h)
  refine ⟨last.reverse, before.reverse, ?_, mt List.mem_reverse.mp hfree⟩
  rw [← List.reverse_reverse l, hsplit, List.reverse_append, List.reverse_cons, List.append_assoc,
    List.singleton_append]

theorem atLast?_eq_some (h : atLast? mark cs = some (before, last)) : cs = before ++ mark :: last := by
  by_cases hmark : mark ∈ cs
  · obtain ⟨before', last', rfl, hfree⟩ := exists_last_mark hmark
    rw [atLast?_append hfree] at h
    cases h
    rfl
  · rw [atLast?_of_not_mem hmark] at h
    cases h

end Text

namespace Address

/-! ## The parts as they are cut -/

theorem splitUser_eq (cs : List Char) : splitUser cs =
    let head := cs.takeWhile fun c => c != ':' && c != '/'
    let rest := cs.dropWhile fun c => c != ':' && c != '/'
    ((after? [':'] rest).bind fun more => (after? ['@'] (more.dropWhile (· != '@'))).map fun behind =>
      (some head, some (more.takeWhile (· != '@')), behind)).getD
        (((atLast? '@' head).map fun parts => (some parts.1, none, parts.2 ++ rest)).getD (none, none, cs)) := by
  unfold splitUser atLast?
  dsimp only
  rw [dropWhile_eq_drop]
  generalize cs.takeWhile (fun c => c != ':' && c != '/') = head
  generalize cs.dropWhile (fun c => c != ':' && c != '/') = rest
  -- A colon needs a mark behind it to part a password off; else the stretch before it is cut at its last mark.
  cases rest with
  | nil => rcases (splitAt (· == '@') head).reverse with _ | ⟨last, _ | ⟨piece, pieces⟩⟩ <;> rfl
  | cons c more =>
    rw [after?_mark]
    by_cases hc : ':' = c
    · subst hc
      rw [if_pos rfl, Option.bind_some]
      simp only
      cases hmore : more.dropWhile (· != '@') with
      | nil => rcases (splitAt (· == '@') head).reverse with _ | ⟨last, _ | ⟨piece, pieces⟩⟩ <;> rfl
      | cons d behind =>
        have hd : (d != '@') = false := by simpa [hmore] using List.head?_dropWhile_not (· != '@') more
        rw [after?_mark, if_pos (bne_eq_false_iff_eq.mp hd).symm]
        rfl
    · rw [if_neg hc]
      split
      · rename_i heq
        exact absurd (List.cons.inj heq).1.symm hc
      · rcases (splitAt (· == '@') head).reverse with _ | ⟨last, _ | ⟨piece, pieces⟩⟩ <;> rfl

theorem bracketedHost?_eq (cs : List Char) : bracketedHost? cs =
    (after? ['['] cs).bind fun more => (atLast? ']' (more.takeWhile fun c => c != '/' && c != '?')).bind fun parts =>
      if parts.1.isEmpty then none
      else some (parts.1, parts.2 ++ more.dropWhile fun c => c != '/' && c != '?') := by
  cases cs with
  | nil => rfl
  | cons c more =>
    rw [after?_mark]
    by_cases hc : '[' = c
    · subst hc
      rw [if_pos rfl, Option.bind_some, bracketedHost?]
      dsimp only
      have hmore := List.takeWhile_append_dropWhile (p := fun c => c != '/' && c != '?') (l := more)
      generalize more.takeWhile (fun c => c != '/' && c != '?') = run at hmore
      generalize more.dropWhile (fun c => c != '/' && c != '?') = rest at hmore
      subst hmore
      -- The text is the host, the last bracket and what is behind it.
      have hcut : ∀ parts, atLast? ']' run = some parts → run = parts.1 ++ ']' :: parts.2 := fun _ => atLast?_eq_some
      unfold atLast? at hcut ⊢
      generalize (splitAt (· == ']') run).reverse = pieces at hcut ⊢
      rcases pieces with _ | ⟨last, _ | ⟨piece, pieces⟩⟩
      · rfl
      · rfl
      · have hrun := hcut _ rfl
        rw [Option.bind_some]
        dsimp only at hrun ⊢
        generalize run.take (run.length - last.length - 1) = host at hrun ⊢
        rw [hrun, List.append_assoc, List.cons_append, List.drop_length_add_append, List.drop_succ_cons, List.drop_zero]
    · rw [if_neg hc, Option.bind_none, bracketedHost?]
      intro more heq
      exact hc (List.cons.inj heq).1.symm

theorem partAfter_eq (mark : Char) (ends : Char → Bool) (cs : List Char) : partAfter mark ends cs =
    ((after? [mark] cs).map fun rest =>
      (some (rest.takeWhile (!ends ·)), rest.dropWhile (!ends ·))).getD (none, cs) := by
  cases cs with
  | nil => rfl
  | cons c rest =>
    rw [after?_mark, partAfter]
    by_cases hc : c = mark
    · rw [if_pos (by simpa using hc), if_pos hc.symm]
      rfl
    · rw [if_neg (by simpa using hc), if_neg (Ne.symm hc)]
      rfl

def portText (cs : List Char) : Option (List Char) :=
  (partAfter ':' (fun c => c == '/' || c == '?') (splitHost (splitUser cs).2.2).2).1

/-- Only the port can be at fault. -/
theorem fault?_parse (driver : String) (cs : List Char) :
    fault? (parse driver cs) = fault? (readPort (portText cs)) := by
  unfold parse portText
  dsimp only
  cases readPort _ <;> rfl

section
variable {user password : List Char} (huser : ∀ c ∈ user, c ≠ ':' ∧ c ≠ '/') (hpassword : '@' ∉ password)
include huser hpassword

/-- The password is what stands between the user's colon and the next `@`. -/
theorem splitUser_password (rest : List Char) :
    splitUser (user ++ ':' :: (password ++ '@' :: rest)) = (some user, some password, rest) := by
  have hhead : (user ++ ':' :: (password ++ '@' :: rest)).takeWhile (fun c => c != ':' && c != '/') = user ∧
      (user ++ ':' :: (password ++ '@' :: rest)).dropWhile (fun c => c != ':' && c != '/') =
        ':' :: (password ++ '@' :: rest) :=
    takeWhile_run (fun c hc => by simpa using huser c hc)
      (forall_head? (p := fun c => (c != ':' && c != '/') = false) rfl)
  have hmore : (password ++ '@' :: rest).takeWhile (· != '@') = password ∧
      (password ++ '@' :: rest).dropWhile (· != '@') = '@' :: rest :=
    takeWhile_run (fun c hc => bne_iff_ne.mpr fun heq => hpassword (heq ▸ hc))
      (forall_head? (p := fun c => (c != '@') = false) rfl)
  rw [splitUser_eq]
  dsimp only
  rw [hhead.1, hhead.2, after?_mark, if_pos rfl, Option.bind_some, hmore.1, hmore.2, after?_mark, if_pos rfl]
  rfl

/-- The password is no part of anything else that is read, and not of the fault. -/
theorem parse_password (driver : String) {other : List Char} (hother : '@' ∉ other) (rest : List Char) :
    parse driver (user ++ ':' :: (password ++ '@' :: rest)) =
      (parse driver (user ++ ':' :: (other ++ '@' :: rest))).map fun a =>
        { a with password := some (percentDecode (String.ofList password)) } := by
  unfold parse
  rw [splitUser_password huser hpassword, splitUser_password huser hother]
  dsimp only
  cases readPort _ <;> rfl

end

end Address

/-! ## A text put into an address -/

/-- The characters at which the parts of an address begin or end. -/
def addressMarks : List Char := [':', '/', '@', '?', '[', ']']

/-- A text that divides no address it is put into. -/
structure Filling where
  text : List Char
  ne_nil : text ≠ []
  free : ∀ c ∈ text, c ∉ addressMarks

/-- A percent encoded text is one. -/
def Filling.encoded (s : String) (h : s ≠ "") : Filling where
  text := (percentEncode [] s).toList
  ne_nil := percentEncode_ne_nil h
  free := by
    have hmarks : (addressMarks.all fun c => !isCoded c) = true := by decide
    intro c hc hmark
    have hcoded := List.all_eq_true.mp hmarks c hmark
    rw [isCoded_percentEncode s c hc] at hcoded
    cases hcoded

variable {mark : Char} {t : List (Option Char)}

theorem not_mem_fill (hmark : mark ∈ addressMarks) (h : some mark ∉ t) (i : Filling) : mark ∉ fill i.text t := by
  intro hmem
  obtain ⟨o, ho, hc⟩ := List.mem_flatMap.mp hmem
  cases o with
  | none => exact i.free mark hc hmark
  | some c =>
    rw [List.mem_singleton.mp hc] at h
    exact h ho

theorem exists_after?_fill (word : List Char) (hword : ∀ c ∈ word, c ∈ addressMarks) (t : List (Option Char)) :
    ∃ o : Option (List (Option Char)), ∀ i : Filling, after? word (fill i.text t) = o.map (fill i.text) := by
  induction word generalizing t with
  | nil => exact ⟨some t, fun i => rfl⟩
  | cons w word ih =>
    cases t with
    | nil => exact ⟨none, fun i => rfl⟩
    | cons o t =>
      cases o with
      | some c =>
        by_cases hc : w = c
        · obtain ⟨o, ho⟩ := ih (fun d hd => hword d (List.mem_cons_of_mem w hd)) t
          refine ⟨o, fun i => ?_⟩
          rw [fill_some, after?, if_pos (beq_iff_eq.mpr hc), ho]
        · refine ⟨none, fun i => ?_⟩
          rw [fill_some, after?, if_neg (by simpa using hc)]
          rfl
      | none =>
        refine ⟨none, fun i => ?_⟩
        obtain ⟨c, cs, hcs⟩ := List.exists_cons_of_ne_nil i.ne_nil
        have hc : w ≠ c := by
          rintro rfl
          exact i.free w (hcs ▸ List.mem_cons_self ..) (hword w (List.mem_cons_self ..))
        rw [fill_none, hcs, List.cons_append, after?, if_neg (by simpa using hc)]
        rfl

theorem exists_atLast?_fill (mark : Char) (hmark : mark ∈ addressMarks) (t : List (Option Char)) :
    (∀ i : Filling, atLast? mark (fill i.text t) = none) ∨
      ∃ a b, ∀ i : Filling, atLast? mark (fill i.text t) = some (fill i.text a, fill i.text b) := by
  by_cases h : some mark ∈ t
  · obtain ⟨a, b, rfl, hb⟩ := exists_last_mark h
    refine .inr ⟨a, b, fun i => ?_⟩
    rw [fill_append, fill_some, atLast?_append (not_mem_fill hmark hb i)]
  · exact .inl fun i => atLast?_of_not_mem (not_mem_fill hmark h i)

/-- Whether and where a text is cut at a word of marks does not depend on what is put in. -/
theorem exists_cutAt?_fill (mark : Char) (word : List Char) (hmark : mark ∈ addressMarks)
    (hword : ∀ c ∈ word, c ∈ addressMarks) (t : List (Option Char)) :
    (∀ i : Filling, cutAt? (mark :: word) (fill i.text t) = none) ∨
      ∃ a b, ∀ i : Filling, cutAt? (mark :: word) (fill i.text t) = some (fill i.text a, fill i.text b) := by
  -- A mark of the word never comes from what is put in, so the cut falls on characters of the text itself.
  induction t with
  | nil => exact .inl fun i => rfl
  | cons o t ih =>
    cases o with
    | none =>
      have hfree : ∀ i : Filling, cutAt? (mark :: word) (i.text ++ fill i.text t) =
          (cutAt? (mark :: word) (fill i.text t)).map fun parts => (i.text ++ parts.1, parts.2) :=
        fun i => cutAt?_free (fun hc => i.free mark hc hmark) _
      rcases ih with hnone | ⟨a, b, hab⟩
      · refine .inl fun i => ?_
        rw [fill_none, hfree, hnone]
        rfl
      · refine .inr ⟨none :: a, b, fun i => ?_⟩
        rw [fill_none, hfree, hab]
        rfl
    | some c =>
      obtain ⟨o, ho⟩ := exists_after?_fill (mark :: word) (List.forall_mem_cons.mpr ⟨hmark, hword⟩) (some c :: t)
      cases o with
      | some b =>
        refine .inr ⟨[], b, fun i => ?_⟩
        have ho := ho i
        rw [fill_some] at ho
        rw [fill_some, cutAt?, ho]
        rfl
      | none =>
        have hcons : ∀ i : Filling, cutAt? (mark :: word) (fill i.text (some c :: t)) =
            (cutAt? (mark :: word) (fill i.text t)).map fun parts => (c :: parts.1, parts.2) := by
          intro i
          have ho := ho i
          rw [fill_some] at ho
          rw [fill_some, cutAt?, ho]
          rfl
        rcases ih with hnone | ⟨a, b, hab⟩
        · refine .inl fun i => ?_
          rw [hcons, hnone]
          rfl
        · refine .inr ⟨some c :: a, b, fun i => ?_⟩
          rw [hcons, hab]
          rfl

/-- A class of characters that leaves out marks only holds for what is put in. -/
theorem Filling.forall_text (i : Filling) {p : Char → Bool} (hp : ∀ c, p c = false → c ∈ addressMarks) :
    ∀ c ∈ i.text, p c = true := by
  intro c hc
  rw [← Bool.not_eq_false]
  exact fun hfalse => i.free c hc (hp c hfalse)

namespace Address

variable (t : List (Option Char))

theorem exists_splitUser_fill : ∃ u, ∀ i : Filling, (splitUser (fill i.text t)).2.2 = fill i.text u := by
  have hhead := fun i : Filling =>
    takeWhile_fill (i.forall_text (p := fun c => c != ':' && c != '/') (by grind [addressMarks])) t
  generalize t.takeWhile (Option.all fun c => c != ':' && c != '/') = head at hhead
  generalize t.dropWhile (Option.all fun c => c != ':' && c != '/') = rest at hhead
  -- without a password, the part before the last `@` is the user
  have hplain : ∃ u, ∀ i : Filling, (((atLast? '@' (fill i.text head)).map fun parts =>
      (some parts.1, (none : Option (List Char)), parts.2 ++ fill i.text rest)).getD
        (none, none, fill i.text t)).2.2 = fill i.text u := by
    rcases exists_atLast?_fill '@' (by decide) head with hnone | ⟨a, b, hab⟩
    · exact ⟨t, fun i => by rw [hnone]; rfl⟩
    · exact ⟨b ++ rest, fun i => by rw [hab, fill_append]; rfl⟩
  obtain ⟨plain, hplain⟩ := hplain
  obtain ⟨o, ho⟩ := exists_after?_fill [':'] (by simp [addressMarks]) rest
  cases o with
  | none =>
    refine ⟨plain, fun i => ?_⟩
    rw [splitUser_eq]
    dsimp only
    rw [(hhead i).1, (hhead i).2, ho, ← hplain i]
    rfl
  | some more =>
    have hmore := fun i : Filling => (takeWhile_fill (i.forall_text (p := (· != '@')) (by grind [addressMarks])) more).2
    obtain ⟨o, ho'⟩ := exists_after?_fill ['@'] (by simp [addressMarks]) (more.dropWhile (Option.all (· != '@')))
    cases o with
    | none =>
      refine ⟨plain, fun i => ?_⟩
      rw [splitUser_eq]
      dsimp only
      rw [(hhead i).1, (hhead i).2, ho, ← hplain i, Option.map_some, Option.bind_some, hmore, ho']
      rfl
    | some behind =>
      refine ⟨behind, fun i => ?_⟩
      rw [splitUser_eq]
      dsimp only
      rw [(hhead i).1, (hhead i).2, ho, Option.map_some, Option.bind_some, hmore, ho']
      rfl

theorem exists_splitHost_fill : ∃ u, ∀ i : Filling, (splitHost (fill i.text t)).2 = fill i.text u := by
  have hrun := fun i : Filling =>
    (takeWhile_fill (i.forall_text (p := fun c => c != '/' && c != ':' && c != '?') (by grind [addressMarks])) t).2
  -- without brackets, the host ends at the next mark
  have hplain : ∀ i : Filling, bracketedHost? (fill i.text t) = none → (splitHost (fill i.text t)).2 =
      fill i.text (t.dropWhile (Option.all fun c => c != '/' && c != ':' && c != '?')) := by
    intro i hnone
    rw [splitHost, hnone]
    dsimp only
    rw [dropWhile_eq_drop, hrun]
  obtain ⟨o, ho⟩ := exists_after?_fill ['['] (by simp [addressMarks]) t
  cases o with
  | none =>
    refine ⟨_, fun i => hplain i ?_⟩
    rw [bracketedHost?_eq, ho]
    rfl
  | some more =>
    have hmore := fun i : Filling =>
      takeWhile_fill (i.forall_text (p := fun c => c != '/' && c != '?') (by grind [addressMarks])) more
    rcases exists_atLast?_fill ']' (by decide) (more.takeWhile (Option.all fun c => c != '/' && c != '?')) with
      hnone | ⟨host, last, hlast⟩
    · refine ⟨_, fun i => hplain i ?_⟩
      rw [bracketedHost?_eq, ho, Option.map_some, Option.bind_some, (hmore i).1, hnone]
      rfl
    · by_cases hhost : host = []
      · refine ⟨_, fun i => hplain i ?_⟩
        rw [bracketedHost?_eq, ho, Option.map_some, Option.bind_some, (hmore i).1, hlast, hhost]
        rfl
      · refine ⟨last ++ more.dropWhile (Option.all fun c => c != '/' && c != '?'), fun i => ?_⟩
        have hne : (fill i.text host).isEmpty = false := by
          simpa using mt (fill_eq_nil_iff i.ne_nil).mp hhost
        have hbracketed : bracketedHost? (fill i.text t) = some (fill i.text host,
            fill i.text (last ++ more.dropWhile (Option.all fun c => c != '/' && c != '?'))) := by
          rw [bracketedHost?_eq, ho, Option.map_some, Option.bind_some, (hmore i).1, hlast, Option.bind_some, hne,
            (hmore i).2, fill_append]
          rfl
        rw [splitHost, hbracketed]

/-- Whether there is a port, and where in it a text stands that is put in, does not depend on the text. -/
theorem exists_portText_fill :
    ∃ o : Option (List (Option Char)), ∀ i : Filling, portText (fill i.text t) = o.map (fill i.text) := by
  obtain ⟨u, hu⟩ := exists_splitUser_fill t
  obtain ⟨v, hv⟩ := exists_splitHost_fill u
  obtain ⟨o, ho⟩ := exists_after?_fill [':'] (by simp [addressMarks]) v
  cases o with
  | none =>
    refine ⟨none, fun i => ?_⟩
    rw [portText, hu, hv, partAfter_eq, ho]
    rfl
  | some rest =>
    refine ⟨some (rest.takeWhile (Option.all fun c => !(c == '/' || c == '?'))), fun i => ?_⟩
    have hport := takeWhile_fill (i.forall_text (p := fun c => !(c == '/' || c == '?')) (by grind [addressMarks])) rest
    rw [portText, hu, hv, partAfter_eq, ho, Option.map_some, Option.map_some, Option.getD_some, hport.1]
    rfl

end Address

end SchemaConcord
