import LayerScript.Proofs.Compiling
import LayerScript.Proofs.Tokens.Spacing

/-!
# Names that can be bound

A name can be bound when it is a token by itself. A script that returns a bound name ends with the
value that the name is bound to, whatever the prelude has under that name.
-/

namespace LayerScript

variable {n : String}

/-! ## Names as tokens -/

/-- A span as long as the source covers all of it. -/
theorem Span.Covers.eq_toList {source : String} {slice : List Char}
    (h : Span.Covers ⟨0, Text.byteLength source.toList⟩ source slice) : slice = source.toList := by
  obtain ⟨before, after, whole, same⟩ := h
  obtain ⟨start, stop⟩ := Span.mk.inj same
  rw [whole, Text.byteLength_append, Text.byteLength_append] at stop
  have nothing : before = [] := Text.byteLength_eq_zero.1 start.symm
  have ended : after = [] := Text.byteLength_eq_zero.1 (by omega)
  simp [whole, nothing, ended]

theorem munches_of_isIdentifier (h : isIdentifier n) (offset : Nat) :
    Munches offset n.toList [⟨.identifier, n, ⟨offset, offset + Text.byteLength n.toList⟩⟩]
      (offset + Text.byteLength n.toList) [] := by
  have spells := spells_of_isIdentifier h
  have m : Munches offset ([] ++ (n.toList ++ [])) _ _ [] :=
    .cons .nil (spells.not_opensGap (by simp)) (spells.longest (by simp)) .nil
  simpa [Text.byteLength] using m

theorem isIdentifier_iff_tokenize (n : String) : isIdentifier n ↔ ∃ text, tokenize n =
    .ok [⟨.identifier, text, ⟨0, Text.byteLength n.toList⟩⟩, endToken n] := by
  constructor
  · intro h
    have m := munches_of_isIdentifier h 0
    rw [Nat.zero_add] at m
    exact ⟨n, tokenize_of_munches m .nil⟩
  · rintro ⟨text, read⟩
    obtain ⟨words, stop, gap, rest, m, g, rfl | ⟨fault, b⟩⟩ := exists_munches 0 n.toList
    · rw [List.append_nil] at m
      have same := Except.ok.inj ((tokenize_of_munches m g).symm.trans read)
      obtain rfl : words = [⟨.identifier, text, ⟨0, Text.byteLength n.toList⟩⟩] :=
        List.append_cancel_right same
      -- the one token is as long as the source, so its spelling is the whole of it
      obtain ⟨slice, spells, covers⟩ := m.spells [] rfl rfl _ List.mem_cons_self
      rw [← String.ofList_toList (s := n), ← covers.eq_toList]
      exact isIdentifier_of_spells spells rfl
    · exact nomatch (tokenize_of_broken m g b).symm.trans read

/-! ## A script that returns a name -/

/-- What a script is read as that returns a name. -/
def returnedTokens (n : String) : List Token :=
  [⟨.keyword .returnWord, "return", ⟨0, 6⟩⟩,
    ⟨.identifier, n, ⟨7, 7 + Text.byteLength n.toList⟩⟩]

def returned (n : String) : Stmt :=
  .return ⟨0, 7 + Text.byteLength n.toList⟩ (some (.name ⟨7, 7 + Text.byteLength n.toList⟩ n))

theorem scanTokens_return (h : isIdentifier n) :
    scanTokens ("return " ++ n) = .ok (returnedTokens n) := by
  let word := ['r', 'e', 't', 'u', 'r', 'n']
  have split : ("return " ++ n).toList = [] ++ (word ++ ([' '] ++ n.toList)) := by
    rw [String.toList_append]
    have text : "return ".toList = word ++ [' '] := by decide +kernel
    rw [text]
    rfl
  have kind : wordKind word = .keyword .returnWord := by decide +kernel
  have spells : Spells (.keyword .returnWord) word word :=
    kind ▸ .word (by decide) (List.all_eq_true.1 (by decide))
  have name := spells_of_isIdentifier h
  have ends : ∀ c ∈ ([' '] ++ (n.toList ++ [])).head?, c = ' ' := by simp
  have m : Munches 0 ([] ++ (word ++ ([' '] ++ (n.toList ++ [])))) _ _ [] :=
    .cons .nil (spells.not_opensGap ends) (spells.longest ends)
      (.cons (gap_space _) (name.not_opensGap (by simp)) (name.longest (by simp)) .nil)
  rw [List.append_nil] at m
  rw [scanTokens, split, m.tokensOf, tokensOf_of_gap .nil]
  have text : String.ofList word = "return" := by decide +kernel
  rw [text, String.ofList_toList]
  rfl

theorem Parse.body_return (fuel : Nat) (n : String) :
    Parse.body (fuel + 40) (returnedTokens n) = .ok ([returned n], []) :=
  rfl

theorem Program.statements_return (h : isIdentifier n) :
    statements ("return " ++ n) = .ok [returned n] := by
  rw [statements, scanTokens_return h]
  -- the fuel for two tokens is more than the forty calls that the parser makes
  have read := Parse.body_return 56 n
  simp only [bind, Except.bind]
  rw [show 32 * ((returnedTokens n).length + 1) = 56 + 40 from rfl, read]
  rfl

namespace Script

variable {σ : Type}

theorem invoke_return {script : Script} {args : Dict Ref} {span place : Span} {r : Ref}
    (params : script.params = args.keys)
    (body : script.body = [.return span (some (.name place n))]) (found : args.find? n = some r)
    (out : Sink σ) (fuel : Nat) (receiver : Ref) (m : Machine σ) (room : m.depth < callLimit) :
    ∃ m', script.invoke out (fuel + 4) receiver args.values m = .done r m' := by
  have lookup : (m.store.entered (script.main m.globals) args).lookup m.store.nextScope n =
      .ok r := by
    rw [Store.lookup, Store.declaration?, Store.nearestWithin?, Store.scope_entered_self]
    simp only [Store.find?_argumentNames, found, Option.map_some]
  rw [invoke_succ out (fuel + 3) script receiver args params m room, body]
  simp [Run.inFrame, Run.sequence, Run.execute, Run.evaluate, Run.name, bind, Run.bind,
    Run.read, Run.check, lookup, Run.bodyResult, pure, Run.pure]

/-- A name can be bound exactly when it is the one token of its text. A script that returns such a
name, of those that are bound, ends with the reference bound to it. -/
theorem bound_names_readable :
    (∀ n, isIdentifier n ↔ ∃ text, tokenize n =
      .ok [⟨.identifier, text, ⟨0, Text.byteLength n.toList⟩⟩, endToken n]) ∧
    ∀ (out : Sink σ) (fuel : Nat) (b : Bindings) (s : Store) (k : σ) (n : String) (r : Ref),
      4 ≤ fuel → (∀ x ∈ b.names s, isIdentifier x) → b.find? s n = some r →
        ∃ s' k', execute out fuel ("return " ++ n) b s k = some ⟨.ok r, s', k'⟩ := by
  refine ⟨isIdentifier_iff_tokenize, ?_⟩
  intro out fuel b s k n r enough valid found
  have mem : n ∈ b.names s := (b.entries s).mem_keys_of_find? found
  have compiled : compile ("return " ++ n) (b.names s) =
      .ok ⟨b.names s, [(returned n).shift 14], true⟩ := by
    rw [compile_of_valid valid, Program.parse_prelude,
      Program.statements_return (valid n mem)]
    rfl
  obtain ⟨fuel, rfl⟩ := Nat.exists_eq_add_of_le' enough
  rw [execute_of_compile compiled]
  let script : Script := ⟨(b.entries s).keys, [(returned n).shift 14], true⟩
  obtain ⟨m', run⟩ := invoke_return (show script.params = _ from rfl) rfl found out fuel b.map
    (.start s true k) (Nat.zero_lt_succ 199)
  exact ⟨m'.store, m'.sink, congrArg _ run⟩

/-- A bound name stands in front of that of the prelude. -/
theorem bound_names_readable_prelude :
    let out : Sink Unit := ⟨fun _ _ _ k => some (.ok (), k)⟩
    let b : Bindings := ⟨.cell 0⟩
    let s : Store := ⟨#[.map (.ofList [("std", .cell 1)]), .array #[]], #[], 0⟩
    isIdentifier "std" ∧ b.find? s "std" = some (.cell 1) ∧
      ∃ s' k', execute out 4 ("return " ++ "std") b s () = some ⟨.ok (.cell 1), s', k'⟩ := by
  intro out b s
  have valid : ∀ x ∈ b.names s, isIdentifier x := by decide +kernel
  have single : ([("std", Ref.cell 1)].map Prod.fst).Nodup := by decide
  have found : b.find? s "std" = some (.cell 1) := (Dict.find?_ofList single "std").trans rfl
  exact ⟨by decide, found,
    bound_names_readable.2 out 4 b s () "std" (.cell 1) (Nat.le_refl 4) valid found⟩

end Script

end LayerScript
