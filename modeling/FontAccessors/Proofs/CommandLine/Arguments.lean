import FontAccessors.CommandLine.Arguments
import FontAccessors.Proofs.FileTree.Walk

namespace FontAccessors.CommandLine
open Text

variable {o o' : Options} {k : Key} {v : String}

structure Options.InOrder (o : Options) : Prop where
  paths : ∀ p ∈ o, p.1.isPath = true → p.2 ≠ ""
  unique : (o.map Prod.fst).Nodup

theorem inOrder_nil : Options.InOrder [] :=
  ⟨by simp, List.nodup_nil⟩

theorem value_isSome_iff : (o.value? k).isSome = true ↔ k ∈ o.map Prod.fst := by
  simp [Options.value?]

theorem assign_ok_iff : o.assign k v = .ok o' ↔
    ¬(k.isPath = true ∧ v = "") ∧ k ∉ o.map Prod.fst ∧ o' = (k, v) :: o := by
  rw [Options.assign, ← value_isSome_iff]
  split
  case isTrue empty => simp_all
  case isFalse named =>
    split
    case isTrue repeated => simp [repeated]
    case isFalse fresh =>
      rw [Bool.and_eq_true, String.isEmpty_iff] at named
      rw [Except.ok.injEq, eq_comm]
      exact ⟨fun same => ⟨named, fresh, same⟩, fun ⟨_, _, same⟩ => same⟩

theorem assign_inOrder (h : o.InOrder) (ok : o.assign k v = .ok o') : o'.InOrder := by
  obtain ⟨named, fresh, rfl⟩ := assign_ok_iff.1 ok
  constructor
  · intro p mem isPath empty
    rcases List.mem_cons.1 mem with rfl | mem
    · exact named ⟨isPath, empty⟩
    · exact h.paths p mem isPath empty
  · exact List.nodup_cons.2 ⟨fresh, h.unique⟩

theorem bind_ok {x : Except Stop Options} {f : Options → Except Stop Options}
    (h : x.bind f = .ok o) : ∃ o', x = .ok o' ∧ f o' = .ok o := by
  cases x with
  | error e => cases h
  | ok o' => exact ⟨o', rfl, h⟩

theorem options_inOrder {keys : List Key} {waiting : Option Key} {arguments : List String}
    (h : o.InOrder) (ok : options keys o waiting arguments = .ok o') : o'.InOrder := by
  fun_induction options keys o waiting arguments
  case case1 | case6 =>
    cases ok
    exact h
  case case2 | case4 | case5 | case7 => cases ok
  case case3 ih | case9 ih =>
    obtain ⟨o₁, assigned, ok⟩ := bind_ok ok
    exact ih o₁ (assign_inOrder h assigned) ok
  case case8 ih => exact ih h ok

def written (p : Key × String) : String :=
  "--" ++ p.1.name ++ "=" ++ p.2

theorem ofText_written (p : Key × String) :
    Word.ofText (written p) = .long p.1.name (some p.2) := by
  obtain ⟨k, v⟩ := p
  have chars : (written (k, v)).toList = '-' :: '-' :: (k.name.toList ++ '=' :: v.toList) := by
    simp [written]
  have plain : ∀ c ∈ k.name.toList, (c != '=') = true := by
    cases k <;> decide
  rw [Word.ofText, chars, Word.ofChars, List.takeWhile_append_of_pos plain,
    List.dropWhile_append_of_pos plain]
  · simp
  · simp

theorem keyOf_written (p : Key × String) : keyOf Key.all (written p) = .ok (p.1, some p.2) := by
  obtain ⟨k, v⟩ := p
  rw [keyOf, ofText_written]
  cases k <;> rfl

theorem options_cons_written (p : Key × String) (o : Options) (arguments : List String) :
    options Key.all o none (written p :: arguments) =
      (o.assign p.1 p.2).bind fun o => options Key.all o none arguments := by
  rw [options.eq_def]
  simp [ofText_written, keyOf_written]

theorem options_written (ps : Options) (h : Options.InOrder (ps.reverse ++ o)) :
    options Key.all o none (ps.map written) = .ok (ps.reverse ++ o) := by
  induction ps generalizing o with
  | nil => rfl
  | cons p ps ih =>
    rw [List.reverse_cons, List.append_assoc] at h ⊢
    have unique := h.unique
    rw [List.map_append, List.nodup_append] at unique
    have assigned : o.assign p.1 p.2 = .ok (p :: o) := by
      refine assign_ok_iff.2 ⟨?_, (List.nodup_cons.1 unique.2.1).1, rfl⟩
      rintro ⟨isPath, empty⟩
      exact h.paths p (by simp) isPath empty
    rw [List.map_cons, options_cons_written, assigned]
    exact ih h

def Options.arguments (o : Options) : List String :=
  Command.generate.name :: o.reverse.map written

theorem ofCommand_generate {c : Command} {arguments : List String}
    (h : Invocation.ofCommand c arguments = .generate o) :
    options c.keys [] none arguments = .ok o ∧ Invocation.conflict? o = none := by
  rw [Invocation.ofCommand] at h
  split at h
  case h_1 stop _ => cases stop <;> cases h
  case h_2 o' ok =>
    split at h
    case h_1 => cases h
    case h_2 compatible =>
      cases h
      exact ⟨ok, compatible⟩
    case h_3 => cases h

theorem ofHelp_ne (arguments : List String) : Invocation.ofHelp arguments ≠ .generate o := by
  fun_cases Invocation.ofHelp arguments <;> nofun

theorem exists_ofCommand {arguments : List String}
    (h : Invocation.ofArguments arguments = .generate o) :
    ∃ c arguments', Invocation.ofCommand c arguments' = .generate o := by
  rw [Invocation.ofArguments.eq_def] at h
  split at h
  case h_1 => cases h
  case h_2 arguments' => exact absurd h (ofHelp_ne arguments')
  case h_3 argument arguments' _ =>
    split at h
    case h_1 c _ => exact ⟨c, arguments', h⟩
    case h_2 =>
      split at h
      case h_1 stop _ => cases stop <;> cases h
      case h_2 => cases h

theorem accepted_iff : (∃ arguments, Invocation.ofArguments arguments = .generate o) ↔
    o.InOrder ∧ Invocation.conflict? o = none := by
  constructor
  · rintro ⟨arguments, h⟩
    obtain ⟨c, arguments', h⟩ := exists_ofCommand h
    obtain ⟨ok, compatible⟩ := ofCommand_generate h
    exact ⟨options_inOrder inOrder_nil ok, compatible⟩
  · rintro ⟨inOrder, compatible⟩
    have read := options_written o.reverse (o := []) (by simpa using inOrder)
    rw [List.reverse_reverse, List.append_nil] at read
    refine ⟨o.arguments, ?_⟩
    show Invocation.ofCommand .generate (o.reverse.map written) = .generate o
    simp only [Invocation.ofCommand, Command.keys, read, compatible]

structure Options.Prints (o' o : Options) : Prop where
  noOutput : o'.value? .output = none
  same : ∀ k, k ≠ .output → o'.value? k = o.value? k

theorem exists_prints {arguments : List String}
    (h : Invocation.ofArguments arguments = .generate o) :
    ∃ arguments' o', Invocation.ofArguments arguments' = .generate o' ∧ o'.Prints o := by
  obtain ⟨inOrder, compatible⟩ := accepted_iff.1 ⟨arguments, h⟩
  have prints : Options.Prints (o.filter (·.1 != .output)) o := by
    constructor
    · rw [Options.value?, List.lookup_eq_none_iff]
      intro p mem
      exact bne_iff_ne.2 (bne_iff_ne.1 (List.mem_filter.1 mem).2).symm
    · intro k other
      exact lookup_filter_ne other o
  have inOrder' : Options.InOrder (o.filter (·.1 != .output)) := by
    constructor
    · intro p mem
      exact inOrder.paths p (List.mem_filter.1 mem).1
    · exact inOrder.unique.sublist (List.filter_sublist.map Prod.fst)
  have compatible' : Invocation.conflict? (o.filter (·.1 != .output)) = none := by
    simpa [Invocation.conflict?, prints.same] using compatible
  obtain ⟨arguments', read⟩ := accepted_iff.2 ⟨inOrder', compatible'⟩
  exact ⟨arguments', _, read, prints⟩

end FontAccessors.CommandLine
