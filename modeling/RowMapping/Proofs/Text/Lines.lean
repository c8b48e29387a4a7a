import RowMapping.Text.Joined
import RowMapping.Text.Lines
import Mathlib.Data.List.Infix
import Mathlib.Data.List.TakeWhile

/-!
# Cutting texts into lines

* `oneLine_of_mem_lines`     no line has a line end;
* `lines_append_newline`    a text is cut at a line feed into the lines before and behind it;
* `exists_mem_lines`        what has no line end stays together in one line;
* `lines_unlines_append`    lines written one behind the other are cut again, one by one;
* `lines_dropFinalNewlines_unlines`  also without the line feeds at their end.
-/

namespace RowMapping.Text

/-- a text without line ends -/
def OneLine (s : String) : Prop := ∀ c ∈ s.toList, isLineEnd c = false

instance (s : String) : Decidable (OneLine s) := List.decidableBAll _ s.toList

theorem oneLine_append_iff {a b : String} : OneLine (a ++ b) ↔ OneLine a ∧ OneLine b := by
  unfold OneLine
  rw [String.toList_append, List.forall_mem_append]

/-- `part` stands somewhere in `text` -/
def Occurs (part text : String) : Prop := part.toList <:+: text.toList

namespace Occurs
variable {part text : String}

theorem refl (s : String) : Occurs s s := List.infix_rfl

theorem append_left (h : Occurs part text) (before : String) : Occurs part (before ++ text) := by
  unfold Occurs
  rw [String.toList_append]
  exact h.trans (List.suffix_append _ _).isInfix

theorem append_right (h : Occurs part text) (after : String) : Occurs part (text ++ after) := by
  unfold Occurs
  rw [String.toList_append]
  exact h.trans (List.prefix_append _ _).isInfix

theorem trans {whole : String} (h : Occurs part text) (h' : Occurs text whole) :
    Occurs part whole := List.IsInfix.trans h h'

theorem oneLine (h : Occurs part text) (htext : OneLine text) : OneLine part :=
  fun c hc => htext c (h.subset hc)

end Occurs

/-! ### cutting at line ends -/

theorem isLineEnd_newline : isLineEnd '\n' = true := by decide

theorem pushFirst_ne_nil (c : Char) (ls : List (List Char)) : pushFirst c ls ≠ [] := by
  cases ls <;> exact nofun

theorem pushFirst_append {c : Char} {ls : List (List Char)} (h : ls ≠ []) (more : List (List Char)) :
    pushFirst c (ls ++ more) = pushFirst c ls ++ more := by
  cases ls with
  | nil => exact absurd rfl h
  | cons l ls => rfl

/-- a line end opens a new line, unless it is the first half of one -/
theorem lineChars_cons_end {c : Char} (h : isLineEnd c = true) {rest : List Char}
    (hpair : ¬ (c = '\r' ∧ rest.head? = some '\n')) :
    lineChars (c :: rest) = [] :: lineChars rest := by
  rw [lineChars]
  · rw [if_pos h]
  · rintro tail rfl rfl
    exact hpair ⟨rfl, rfl⟩

theorem lineChars_ne_nil {s : List Char} (h : s ≠ []) : lineChars s ≠ [] := by
  fun_cases lineChars s
  · exact absurd rfl h
  · exact nofun
  · exact nofun
  · exact pushFirst_ne_nil _ _

theorem lineChars_append_of_free {s : List Char} (h : ∀ c ∈ s, isLineEnd c = false)
    (rest : List Char) : lineChars (s ++ '\n' :: rest) = s :: lineChars rest := by
  induction s with
  | nil => exact lineChars_cons_end isLineEnd_newline (by rintro ⟨h, -⟩; cases h)
  | cons c s ih =>
    obtain ⟨hc, hs⟩ := List.forall_mem_cons.mp h
    rw [List.cons_append, lineChars_cons hc, ih hs]
    rfl

/-- what has no line end is one line at the end, unless it is empty -/
theorem lineChars_of_free {s : List Char} (hne : s ≠ []) (h : ∀ c ∈ s, isLineEnd c = false) :
    lineChars s = [s] := by
  induction s with
  | nil => exact absurd rfl hne
  | cons c s ih =>
    obtain ⟨hc, hs⟩ := List.forall_mem_cons.mp h
    rw [lineChars_cons hc]
    cases s with
    | nil => rfl
    | cons d s =>
      rw [ih nofun hs]
      rfl

theorem lineChars_append_newline (a b : List Char) :
    lineChars (a ++ '\n' :: b) = lineChars (a ++ ['\n']) ++ lineChars b := by
  fun_induction lineChars a with
  | case1 =>
    show lineChars ('\n' :: b) = lineChars ['\n'] ++ lineChars b
    rw [lineChars_cons_end isLineEnd_newline (by rintro ⟨h, -⟩; cases h)]
    rfl
  | case2 rest ih =>
    show lineChars ('\r' :: '\n' :: (rest ++ '\n' :: b))
      = lineChars ('\r' :: '\n' :: (rest ++ ['\n'])) ++ _
    rw [lineChars, lineChars, ih]
    rfl
  | case3 c rest hpair hend ih =>
    cases rest with
    | nil =>
      by_cases hc : c = '\r'
      · -- on both sides the carriage return and the line feed are one line end
        subst hc
        show lineChars ('\r' :: '\n' :: b) = lineChars ['\r', '\n'] ++ lineChars b
        rw [lineChars]
        rfl
      · have hno : ∀ tail : List Char, ¬ (c = '\r' ∧ tail.head? = some '\n') := fun _ h => hc h.1
        show lineChars (c :: '\n' :: b) = lineChars (c :: ['\n']) ++ lineChars b
        rw [lineChars_cons_end hend (hno _), lineChars_cons_end hend (hno _)]
        exact congrArg _ ih
    | cons d rest =>
      have hno : ∀ tail, ¬ (c = '\r' ∧ (d :: (rest ++ tail)).head? = some '\n') := by
        rintro tail ⟨rfl, hd⟩
        exact hpair rest rfl (congrArg (· :: rest) (Option.some.inj hd))
      show lineChars (c :: (d :: (rest ++ '\n' :: b)))
        = lineChars (c :: (d :: (rest ++ ['\n']))) ++ lineChars b
      rw [lineChars_cons_end hend (hno _), lineChars_cons_end hend (hno _)]
      exact congrArg _ ih
  | case4 c rest hpair hend ih =>
    have hend : isLineEnd c = false := by simpa using hend
    show lineChars (c :: (rest ++ '\n' :: b)) = lineChars (c :: (rest ++ ['\n'])) ++ lineChars b
    rw [lineChars_cons hend, lineChars_cons hend, ih, pushFirst_append]
    exact lineChars_ne_nil (by simp)

theorem isLineEnd_of_mem_lineChars {s line : List Char} (h : line ∈ lineChars s) :
    ∀ c ∈ line, isLineEnd c = false := by
  fun_induction lineChars s generalizing line with
  | case1 => cases h
  | case2 rest ih =>
    rcases List.mem_cons.mp h with rfl | h
    · intro c hc; cases hc
    · exact ih h
  | case3 c rest _ _ ih =>
    rcases List.mem_cons.mp h with rfl | h
    · intro c hc; cases hc
    · exact ih h
  | case4 d rest _ hend ih =>
    have hend : isLineEnd d = false := by simpa using hend
    have hfirst : ∀ first : List Char, (∀ c ∈ first, isLineEnd c = false) →
        ∀ c ∈ d :: first, isLineEnd c = false := by
      intro first hfirst c hc
      rcases List.mem_cons.mp hc with rfl | hc
      · exact hend
      · exact hfirst c hc
    cases hrest : lineChars rest with
    | nil =>
      rw [hrest] at h
      rw [List.mem_singleton.mp h]
      exact hfirst [] (fun c hc => by cases hc)
    | cons first others =>
      rw [hrest] at h ih
      rcases List.mem_cons.mp h with rfl | h
      · exact hfirst first (ih List.mem_cons_self)
      · exact ih (List.mem_cons_of_mem _ h)

/-! ### what stays together -/

/-- a character in front of a line leaves what is in the lines where it is -/
theorem exists_infix_pushFirst {part : List Char} {ls : List (List Char)} (c : Char)
    (h : ∃ line ∈ ls, part <:+: line) : ∃ line ∈ pushFirst c ls, part <:+: line := by
  obtain ⟨line, hline, hpart⟩ := h
  cases ls with
  | nil => cases hline
  | cons first others =>
    rcases List.mem_cons.mp hline with rfl | hline
    · exact ⟨c :: line, List.mem_cons_self, hpart.trans (List.suffix_cons c line).isInfix⟩
    · exact ⟨line, List.mem_cons_of_mem _ hline, hpart⟩

/-- what has no line end opens the first line of what it stands in front of -/
theorem exists_prefix_lineChars {part : List Char} (hne : part ≠ [])
    (hpart : ∀ c ∈ part, isLineEnd c = false) (rest : List Char) :
    ∃ first others, lineChars (part ++ rest) = first :: others ∧ part <+: first := by
  induction part with
  | nil => exact absurd rfl hne
  | cons c part ih =>
    have hc : isLineEnd c = false := hpart c List.mem_cons_self
    rw [List.cons_append, lineChars_cons hc]
    cases part with
    | nil =>
      cases hrest : lineChars ([] ++ rest) with
      | nil => exact ⟨[c], [], rfl, List.prefix_rfl⟩
      | cons first others => exact ⟨c :: first, others, rfl, List.prefix_append [c] first⟩
    | cons d part =>
      obtain ⟨first, others, hlines, hleading⟩ :=
        ih nofun fun x hx => hpart x (List.mem_cons_of_mem _ hx)
      rw [hlines]
      exact ⟨c :: first, others, rfl, (List.cons_prefix_cons).mpr ⟨rfl, hleading⟩⟩

theorem exists_infix_lineChars {part : List Char} (hne : part ≠ [])
    (hpart : ∀ c ∈ part, isLineEnd c = false) (before after : List Char) :
    ∃ line ∈ lineChars (before ++ (part ++ after)), part <:+: line := by
  fun_induction lineChars before with
  | case1 =>
    obtain ⟨first, others, hlines, hleading⟩ := exists_prefix_lineChars hne hpart after
    refine ⟨first, ?_, hleading.isInfix⟩
    rw [List.nil_append, hlines]
    exact List.mem_cons_self
  | case2 rest ih =>
    obtain ⟨line, hline, hinfix⟩ := ih
    refine ⟨line, ?_, hinfix⟩
    show line ∈ lineChars ('\r' :: '\n' :: (rest ++ (part ++ after)))
    unfold lineChars
    exact List.mem_cons_of_mem _ hline
  | case3 c rest hpair hend ih =>
    obtain ⟨line, hline, hinfix⟩ := ih
    refine ⟨line, ?_, hinfix⟩
    have hno : ¬ (c = '\r' ∧ (rest ++ (part ++ after)).head? = some '\n') := by
      rintro ⟨rfl, hhead⟩
      cases rest with
      | nil =>
        cases part with
        | nil => exact hne rfl
        | cons d part =>
          have hd : d = '\n' := Option.some.inj hhead
          have := hpart d List.mem_cons_self
          rw [hd, isLineEnd_newline] at this
          cases this
      | cons d rest => exact hpair rest rfl (congrArg (· :: rest) (Option.some.inj hhead))
    rw [List.cons_append, lineChars_cons_end hend hno]
    exact List.mem_cons_of_mem _ hline
  | case4 c rest hpair hend ih =>
    have hend : isLineEnd c = false := by simpa using hend
    rw [List.cons_append, lineChars_cons hend]
    exact exists_infix_pushFirst c ih

theorem head?_lineChars {s : List Char} (h : ∀ c ∈ s.head?, isLineEnd c = false) :
    (lineChars s).head? ≠ some [] := by
  cases s with
  | nil => exact nofun
  | cons c rest =>
    rw [lineChars_cons (h c rfl)]
    cases lineChars rest <;> exact nofun

theorem getLast?_lineChars {s : List Char} (h : ∀ c ∈ s.getLast?, isLineEnd c = false) :
    (lineChars s).getLast? ≠ some [] := by
  have hrest : ∀ {c : Char} {rest : List Char}, rest ≠ [] →
      (∀ d ∈ (c :: rest).getLast?, isLineEnd d = false) →
      ∀ d ∈ rest.getLast?, isLineEnd d = false := by
    intro c rest hne hlast d hd
    rw [List.getLast?_cons_of_ne_nil hne] at hlast
    exact hlast d hd
  fun_induction lineChars s with
  | case1 => exact nofun
  | case2 rest ih =>
    by_cases hne : rest = []
    · subst hne
      exact absurd (h '\n' rfl) (by decide)
    · rw [List.getLast?_cons_of_ne_nil (lineChars_ne_nil hne)]
      exact ih (hrest hne (hrest nofun h))
  | case3 c rest _ hend ih =>
    by_cases hne : rest = []
    · subst hne
      rw [h c rfl] at hend
      cases hend
    · rw [List.getLast?_cons_of_ne_nil (lineChars_ne_nil hne)]
      exact ih (hrest hne h)
  | case4 c rest _ hend ih =>
    by_cases hne : rest = []
    · subst hne
      exact nofun
    · have hlast := ih (hrest hne h)
      cases hlines : lineChars rest with
      | nil => exact nofun
      | cons line more =>
        rw [hlines] at hlast
        cases more with
        | nil => exact nofun
        | cons line' more => exact hlast

/-! ### lines of texts -/

theorem lines_of_oneLine {s : String} (hne : s ≠ "") (h : OneLine s) : lines s = [s] := by
  have hchars : s.toList ≠ [] := fun hnil => hne (String.toList_eq_nil_iff.mp hnil)
  rw [lines, lineChars_of_free hchars h, List.map_singleton, String.ofList_toList]

theorem lines_append_newline_of_oneLine {s : String} (h : OneLine s) : lines (s ++ "\n") = [s] := by
  have hnewline : "\n".toList = ['\n'] := by decide
  rw [lines, String.toList_append, hnewline, lineChars_append_of_free h, lineChars_nil,
    List.map_singleton, String.ofList_toList]

theorem head?_lines {s : String} (h : ∀ c ∈ s.toList.head?, isLineEnd c = false) :
    (lines s).head? ≠ some "" := by
  rw [lines, List.head?_map, Ne, Option.map_eq_some_iff]
  rintro ⟨line, hline, hempty⟩
  rw [String.ofList_eq_empty_iff] at hempty
  exact head?_lineChars h (hempty ▸ hline)

theorem getLast?_lines {s : String} (h : ∀ c ∈ s.toList.getLast?, isLineEnd c = false) :
    (lines s).getLast? ≠ some "" := by
  rw [lines, List.getLast?_map, Ne, Option.map_eq_some_iff]
  rintro ⟨line, hline, hempty⟩
  rw [String.ofList_eq_empty_iff] at hempty
  exact getLast?_lineChars h (hempty ▸ hline)

theorem oneLine_of_mem_lines {s line : String} (h : line ∈ lines s) : OneLine line := by
  obtain ⟨chars, hchars, rfl⟩ := List.mem_map.mp h
  intro c hc
  rw [String.toList_ofList] at hc
  exact isLineEnd_of_mem_lineChars hchars c hc

/-- what has no line end stays together in one line -/
theorem exists_mem_lines {part text : String} (hne : part ≠ "") (hpart : OneLine part)
    (h : Occurs part text) : ∃ line ∈ lines text, Occurs part line := by
  obtain ⟨before, after, heq⟩ := h
  have hne' : part.toList ≠ [] := fun h => hne (String.toList_eq_nil_iff.mp h)
  obtain ⟨line, hline, hinfix⟩ := exists_infix_lineChars hne' hpart before after
  rw [← List.append_assoc, heq] at hline
  refine ⟨String.ofList line, List.mem_map_of_mem hline, ?_⟩
  unfold Occurs
  rw [String.toList_ofList]
  exact hinfix

theorem lines_ne_nil {s : String} (h : s ≠ "") : lines s ≠ [] := by
  unfold lines
  rw [Ne, List.map_eq_nil_iff]
  exact lineChars_ne_nil fun hs => h (String.toList_eq_nil_iff.mp hs)

theorem lines_append_newline (a b : String) :
    lines (a ++ "\n" ++ b) = lines (a ++ "\n") ++ lines b := by
  have hnewline : "\n".toList = ['\n'] := by decide
  rw [lines, lines, lines, String.toList_append, String.toList_append, hnewline, ← List.map_append,
    ← lineChars_append_newline, List.append_assoc]
  rfl

/-! ### lines one behind the other -/

theorem joined_append (sep : String) {as bs : List String} (ha : as ≠ []) (hb : bs ≠ []) :
    joined sep (as ++ bs) = joined sep as ++ sep ++ joined sep bs := by
  induction as with
  | nil => exact absurd rfl ha
  | cons a as ih =>
    cases as with
    | nil =>
      obtain ⟨b, bs, rfl⟩ := List.exists_cons_of_ne_nil hb
      rfl
    | cons a' as =>
      rw [List.cons_append, List.cons_append, joined_cons_cons, joined_cons_cons,
        ← List.cons_append, ih nofun]
      simp only [String.append_assoc]

theorem mem_joined {sep : String} {texts : List String} {c : Char}
    (h : c ∈ (joined sep texts).toList) : c ∈ sep.toList ∨ ∃ text ∈ texts, c ∈ text.toList := by
  induction texts with
  | nil => cases h
  | cons a rest ih =>
    cases rest with
    | nil => exact .inr ⟨a, List.mem_cons_self, h⟩
    | cons b rest =>
      rw [joined_cons_cons, String.toList_append, String.toList_append, List.mem_append,
        List.mem_append] at h
      rcases h with (h | h) | h
      · exact .inr ⟨a, List.mem_cons_self, h⟩
      · exact .inl h
      · exact (ih h).imp_right fun ⟨text, htext, hc⟩ => ⟨text, List.mem_cons_of_mem _ htext, hc⟩

theorem oneLine_joined {sep : String} {texts : List String} (hsep : OneLine sep)
    (h : ∀ text ∈ texts, OneLine text) : OneLine (joined sep texts) := by
  intro c hc
  rcases mem_joined hc with hc | ⟨text, htext, hc⟩
  · exact hsep c hc
  · exact h text htext c hc

theorem mem_join {texts : List String} {c : Char} (h : c ∈ (String.join texts).toList) :
    ∃ text ∈ texts, c ∈ text.toList := by
  induction texts with
  | nil => cases h
  | cons a rest ih =>
    rw [String.join_cons, String.toList_append, List.mem_append] at h
    rcases h with h | h
    · exact ⟨a, List.mem_cons_self, h⟩
    · obtain ⟨text, htext, hc⟩ := ih h
      exact ⟨text, List.mem_cons_of_mem _ htext, hc⟩

/-- texts each with a line feed behind it -/
def unlines (ls : List String) : String := String.join (ls.map (· ++ "\n"))

theorem unlines_nil : unlines [] = "" := String.join_nil

theorem unlines_cons (l : String) (ls : List String) :
    unlines (l :: ls) = l ++ "\n" ++ unlines ls := String.join_cons

theorem unlines_append (as bs : List String) : unlines (as ++ bs) = unlines as ++ unlines bs := by
  rw [unlines, List.map_append, String.join_append, unlines, unlines]

theorem joined_newline {ls : List String} (h : ls ≠ []) : joined "\n" ls ++ "\n" = unlines ls := by
  induction ls with
  | nil => exact absurd rfl h
  | cons l ls ih =>
    cases ls with
    | nil =>
      rw [unlines_cons, joined_singleton, unlines_nil, String.append_empty]
    | cons l' ls =>
      rw [joined_cons_cons, unlines_cons, ← ih nofun]
      simp only [String.append_assoc]

/-- lines one behind the other are cut again, one by one -/
theorem lines_unlines_append (ls : List String) (rest : String) :
    lines (unlines ls ++ rest) = ls.flatMap (fun l => lines (l ++ "\n")) ++ lines rest := by
  induction ls with
  | nil => rw [unlines_nil, String.empty_append]; rfl
  | cons l ls ih =>
    rw [unlines_cons, String.append_assoc, lines_append_newline, ih, List.flatMap_cons,
      List.append_assoc]

theorem lines_unlines {ls : List String} (h : ∀ l ∈ ls, OneLine l) : lines (unlines ls) = ls := by
  have hcut : ls.flatMap (fun l => lines (l ++ "\n")) = ls.flatMap fun l => [l] :=
    List.flatMap_congr fun l hl => lines_append_newline_of_oneLine (h l hl)
  have hlines := lines_unlines_append ls ""
  rwa [String.append_empty, lines_nil, List.append_nil, hcut, List.flatMap_singleton'] at hlines

/-! ### line feeds at the end -/

theorem dropFinalNewlines_append (a : String) {b : String} (h : ∃ c ∈ b.toList, c ≠ '\n') :
    dropFinalNewlines (a ++ b) = a ++ dropFinalNewlines b := by
  obtain ⟨c, hc, hne⟩ := h
  have hdrop : b.toList.reverse.dropWhile (· = '\n') ≠ [] := by
    intro hnil
    rw [List.dropWhile_eq_nil_iff] at hnil
    exact hne (of_decide_eq_true (hnil c (List.mem_reverse.mpr hc)))
  rw [dropFinalNewlines, dropFinalNewlines, String.toList_append, List.reverse_append,
    List.dropWhile_append, if_neg (by simpa using hdrop), List.reverse_append,
    List.reverse_reverse, String.ofList_append, String.ofList_toList]

theorem dropFinalNewlines_ne_empty {s : String} (h : ∃ c ∈ s.toList, c ≠ '\n') :
    dropFinalNewlines s ≠ "" := by
  obtain ⟨c, hc, hne⟩ := h
  intro hempty
  rw [dropFinalNewlines, ← String.toList_eq_nil_iff, String.toList_ofList, List.reverse_eq_nil_iff,
    List.dropWhile_eq_nil_iff] at hempty
  exact hne (of_decide_eq_true (hempty c (List.mem_reverse.mpr hc)))

theorem dropFinalNewlines_of_oneLine {s : String} (hne : s ≠ "") (h : OneLine s) :
    dropFinalNewlines (s ++ "\n") = s := by
  have hnewline : "\n".toList = ['\n'] := by decide
  obtain ⟨c, rest, hlast⟩ : ∃ c rest, s.toList.reverse = c :: rest :=
    List.exists_cons_of_ne_nil fun hnil =>
      hne (String.toList_eq_nil_iff.mp (List.reverse_eq_nil_iff.mp hnil))
  have hc : c ≠ '\n' := by
    rintro rfl
    have hmem : '\n' ∈ s.toList := List.mem_reverse.mp (hlast ▸ List.mem_cons_self)
    exact absurd (h _ hmem) (by decide)
  rw [dropFinalNewlines, String.toList_append, hnewline, List.reverse_append, hlast,
    List.reverse_singleton, List.singleton_append, List.dropWhile_cons_of_pos (by decide),
    List.dropWhile_cons_of_neg (by simpa using hc), ← hlast, List.reverse_reverse,
    String.ofList_toList]

/-- Lines one behind the other, without the line feed at their end, are cut again as they were. -/
theorem lines_dropFinalNewlines_unlines {ls : List String} (h : ∀ l ∈ ls, OneLine l)
    (hlast : ls.getLast? ≠ some "") : lines (dropFinalNewlines (unlines ls)) = ls := by
  rcases List.eq_nil_or_concat' ls with rfl | ⟨init, last, rfl⟩
  · rfl
  rw [List.getLast?_concat] at hlast
  obtain ⟨hinit, hlastLine⟩ := List.forall_mem_append.mp h
  have hlastLine : OneLine last := List.forall_mem_singleton.mp hlastLine
  have hne : last ≠ "" := fun heq => hlast (congrArg some heq)
  obtain ⟨c, hc⟩ : ∃ c, c ∈ last.toList :=
    List.exists_mem_of_ne_nil _ fun hnil => hne (String.toList_eq_nil_iff.mp hnil)
  have hother : ∃ c ∈ (last ++ "\n").toList, c ≠ '\n' := by
    refine ⟨c, ?_, ?_⟩
    · rw [String.toList_append]
      exact List.mem_append_left _ hc
    · rintro rfl
      exact absurd (hlastLine _ hc) (by decide)
  have hcut : init.flatMap (fun l => lines (l ++ "\n")) = init := by
    rw [List.flatMap_congr fun l hl => lines_append_newline_of_oneLine (hinit l hl),
      List.flatMap_singleton']
  rw [unlines_append, unlines_cons, unlines_nil, String.append_empty,
    dropFinalNewlines_append _ hother, dropFinalNewlines_of_oneLine hne hlastLine,
    lines_unlines_append, hcut, lines_of_oneLine hne hlastLine]

end RowMapping.Text
