import FontAccessors.Grammar.Path
import FontAccessors.Proofs.Grammar.Reader

namespace FontAccessors.Grammar
open Token

def IsSegmentName (i : Ident) : Prop :=
  i.isRaw = true ∨ i.name ∉ keywords ∨ i.name ∈ pathWords

def IsSegmentWord (i : Ident) : Prop :=
  IsSegmentName i ∨ i = .plain "try"

def isBareWord (i : Ident) : Bool :=
  !i.isRaw && ["try", "super", "self", "crate"].contains i.name

def takesArguments (i : Ident) : Bool :=
  i = .plain "Self" || isName i

def atArguments (inExpr : Bool) (ts : List Token) : Bool :=
  (!inExpr && atMark "<" ts && !atMarks ["<=", "<<="] ts) || atTurbofish ts

section

variable {g : Rules} {inExpr : Bool} {n : Nat} {i : Ident} {ts rest : List Token}

theorem isSegmentWord_iff : IsSegmentWord i ↔ isBareWord i = true ∨ takesArguments i = true := by
  obtain ⟨name, isRaw⟩ := i
  cases isRaw with
  | true => simp [IsSegmentWord, IsSegmentName, takesArguments, isName]
  | false =>
    simp [IsSegmentWord, IsSegmentName, isBareWord, takesArguments, isName, Ident.plain, pathWords]
    grind

theorem segment_eq (g : Rules) (inExpr : Bool) (n : Nat) (ts : List Token) :
    segment g inExpr n ts = (identAt? ts).bind fun r =>
      if isBareWord r.1 then some (⟨r.1, .none⟩, r.2)
      else if takesArguments r.1 then
        if atArguments inExpr r.2 then (angleArguments g n r.2).map fun a => (⟨r.1, a.1⟩, a.2)
        else some (⟨r.1, .none⟩, r.2)
      else none := by
  cases found : identAt? ts with
  | none => simp [segment, atWords, atWord, name, found]
  | some r =>
    obtain ⟨i, more⟩ := r
    have words : atWords ["try", "super", "self", "crate"] ts = isBareWord i := by
      simp [atWords, found, isBareWord]
    have self : atWord "Self" ts = decide (i = .plain "Self") := by simp [atWord, found]
    have bare : name ts = if isName i then some (i, more) else none := by
      cases named : isName i <;> simp [name, found, Option.filter, named]
    have any : anyIdent ts = some (i, more) := found
    cases word : isBareWord i with
    | true => simp [segment, words, word, any]
    | false =>
      by_cases isSelf : i = .plain "Self"
      · simp [segment, words, self, isSelf, takesArguments, any, atArguments]
      · cases named : isName i with
        | true =>
          simp [segment, words, word, self, isSelf, takesArguments, bare, named, atArguments]
        | false => simp [segment, words, word, self, isSelf, takesArguments, bare, named]

theorem segment_bare (named : IsSegmentWord i) (bare : atArguments inExpr ts = false) :
    segment g inExpr n (.ident i :: ts) = some (⟨i, .none⟩, ts) := by
  rw [segment_eq, identAt_ident]
  cases word : isBareWord i with
  | true => simp [word]
  | false => simp [word, (isSegmentWord_iff.1 named).resolve_left (by simp [word]), bare]

theorem segment_some {s : Segment} (read : segment g inExpr n ts = some (s, rest)) :
    IsSegmentWord s.name ∧ ∃ more, identAt? ts = some (s.name, more) ∧
      ((isBareWord s.name = true ∨ atArguments inExpr more = false) ∧
          s.arguments = .none ∧ rest = more ∨
        isBareWord s.name = false ∧ takesArguments s.name = true ∧
          atArguments inExpr more = true ∧ angleArguments g n more = some (s.arguments, rest)) := by
  rw [segment_eq] at read
  obtain ⟨⟨i, more⟩, found, read⟩ := Option.bind_eq_some_iff.1 read
  split at read
  · rename_i word
    cases read
    exact ⟨isSegmentWord_iff.2 (.inl word), _, found, .inl ⟨.inl word, rfl, rfl⟩⟩
  · rename_i word
    split at read
    · rename_i takes
      have segmentWord := isSegmentWord_iff.2 (.inr takes)
      split at read
      · rename_i ahead
        obtain ⟨⟨a, after⟩, arguments, eq⟩ := Option.map_eq_some_iff.1 read
        cases eq
        exact ⟨segmentWord, more, found, .inr ⟨by simpa using word, takes, ahead, arguments⟩⟩
      · rename_i bare
        cases read
        exact ⟨segmentWord, _, found, .inl ⟨.inr (by simpa using bare), rfl, rfl⟩⟩
    · cases read

theorem angleArguments_angle {a : Arguments} (read : angleArguments g n ts = some (a, rest)) :
    ∃ turbofish entries, a = .angle turbofish entries := by
  simp only [angleArguments, run_bind, run_pure, Option.bind_eq_some_iff] at read
  obtain ⟨⟨out, ts₁⟩, -, ⟨es, ts₂⟩, -, eq⟩ := read
  cases eq
  exact ⟨_, es, rfl⟩

theorem segmentsAfter_some {ss : List Segment}
    (read : segmentsAfter g inExpr (n + 1) ts = some (ss, rest)) :
    (ss = [] ∧ rest = ts) ∨ ∃ out ts₁ s ts₂ ss', mark "::" ts = some (out, ts₁) ∧
      segment g inExpr n ts₁ = some (s, ts₂) ∧
      segmentsAfter g inExpr n ts₂ = some (ss', rest) ∧ ss = s :: ss' := by
  simp only [segmentsAfter, run_bind, run_get, Option.bind_some, run_ite] at read
  split at read
  · simp only [Option.bind_eq_some_iff, run_pure] at read
    obtain ⟨⟨out, ts₁⟩, lead, ⟨s, ts₂⟩, first, ⟨ss', last⟩, others, eq⟩ := read
    cases eq
    exact .inr ⟨out, ts₁, s, ts₂, ss', lead, first, others, rfl⟩
  · cases read
    exact .inl ⟨rfl, rfl⟩

theorem path_some {p : Path} (read : path g inExpr n ts = some (p, rest)) :
    ∃ ts₁ s ts₂ ss, root ts = some (p.isRooted, ts₁) ∧ segment g inExpr n ts₁ = some (s, ts₂) ∧
      segmentsAfter g inExpr n ts₂ = some (ss, rest) ∧ p = ⟨[], p.isRooted, s :: ss⟩ := by
  simp only [path, Path.extend, run_bind, run_pure, Option.bind_eq_some_iff] at read
  obtain ⟨⟨b, ts₁⟩, lead, ⟨s, ts₂⟩, first, ⟨ss, last⟩, others, eq⟩ := read
  cases eq
  exact ⟨ts₁, s, ts₂, ss, lead, first, others, rfl⟩

theorem path_forall {P : Segment → Prop}
    (each : ∀ n ts s rest, segment g inExpr n ts = some (s, rest) → P s) {p : Path}
    (read : path g inExpr n ts = some (p, rest)) : ∀ s ∈ p.segments, P s := by
  have all {n : Nat} {ts rest : List Token} {ss : List Segment}
      (read : segmentsAfter g inExpr n ts = some (ss, rest)) : ∀ s ∈ ss, P s := by
    induction n generalizing ts ss with
    | zero => cases read
    | succ n ih =>
      rcases segmentsAfter_some read with ⟨rfl, -⟩ | ⟨-, ts₁, s, ts₂, ss', -, first, others, rfl⟩
      · nofun
      · exact List.forall_mem_cons.2 ⟨each n ts₁ s ts₂ first, ih others⟩
  obtain ⟨ts₁, s, ts₂, ss, -, first, others, eq⟩ := path_some read
  rw [eq]
  exact List.forall_mem_cons.2 ⟨each n ts₁ s ts₂ first, all others⟩

end

end FontAccessors.Grammar
