import Roster.Proofs.Filter.Atom
import Roster.Proofs.Filter.Condition

/-!
# Values in quotes

A value in quotes is bound as it stands between them, and so is every item of a list of quotations (`compile_verbatim`). The text goes through three scans, that for tokens, that for the end of a list and that for its items. All of them take a quotation as a whole, so nothing in it is looked at.
-/

namespace Roster.Filter

open Text

theorem Operator.scan_symbol : ∀ op ∈ all, scan op.symbol = .ok [⟨.operator op.symbol, 0⟩] := by
  decide +kernel

theorem scan_of_filterable : ∀ column ∈ filterable, scan column = .ok [⟨.word column, 0⟩] := by
  decide +kernel

theorem Rule.render_of_takesList {rule : Rule} (h : rule.takesList = true) (column : Text) (placeholders : List Text)
    (collation : Text) :
    rule.render column placeholders collation =
      column ++ ' ' :: rule.keyword ++ " (".toList ++ join ", ".toList placeholders ++ [')'] := by
  cases rule with
  | member negated => rfl
  | _ => cases h

theorem Rule.prepare_of_takesList {rule : Rule} (h : rule.takesList = true) (value : Literal) :
    rule.prepare value = value := by
  cases rule with
  | member negated => rfl
  | _ => cases h

/-- A column, an operator and a value with blanks between them have the tokens of the comparison that they are. -/
theorem Comparison.exists_scan {spelling : Text} {offset offset' : Nat} (c : Comparison)
    (hcolumn : scan c.column = .ok [⟨.word c.column, offset⟩]) (hvalue : scan spelling = .ok [⟨c.value, offset'⟩]) :
    ∃ tokens, scan (join [' '] [c.column, c.operator.symbol, spelling]) = .ok tokens ∧
      tokens.map Located.token = c.tokens := by
  obtain ⟨ts, hts, htokens⟩ := exists_scan_append (Operator.scan_symbol _ c.operator.mem_all) hvalue
  obtain ⟨tokens, hscan, hmap⟩ := exists_scan_append hcolumn hts
  have hjoin : join [' '] [c.column, c.operator.symbol, spelling] =
      c.column ++ ' ' :: (c.operator.symbol ++ ' ' :: spelling) := by
    simp [join]
  refine ⟨tokens, by rw [hjoin, hscan], ?_⟩
  rw [hmap, htokens]
  rfl

theorem compile_comparison {options : Options} {spelling : Text} {offset offset' : Nat} (c : Comparison)
    (hcolumn : scan c.column = .ok [⟨.word c.column, offset⟩]) (hvalue : scan spelling = .ok [⟨c.value, offset'⟩])
    (hlength : byteSize (join [' '] [c.column, c.operator.symbol, spelling]) ≤ options.maxLength) :
    compile options (join [' '] [c.column, c.operator.symbol, spelling]) =
      .ok ⟨c.render placeholder options.collation 0, parametersFrom 0 c.bound, [c.column]⟩ := by
  obtain ⟨tokens, hscan, htokens⟩ := c.exists_scan hcolumn hvalue
  have hspelled : (Chain.single (.test c)).tokens = tokens.map Located.token := htokens.symm
  refine compile_eq_ok_iff.2 ⟨hlength, _, .chain hscan hspelled, ?_⟩
  simp [compiledSource, Chain.compiled, Chain.render, Operand.render, Chain.comparisons, Operand.comparisons,
    boundLiterals]

/-- A value in quotes is bound as it is, but for what the operator adds to it. Quotations in a list are bound as they are, one by one. -/
theorem compile_verbatim {options : Options} {column : Text} {offset : Nat}
    (hcolumn : scan column = .ok [⟨.word column, offset⟩]) (op : TestOperator) :
    (op.rule.takesList = false → ∀ q : Quotation,
        byteSize (join [' '] [column, op.symbol, q.spelling]) ≤ options.maxLength →
          compile options (join [' '] [column, op.symbol, q.spelling]) =
            .ok ⟨op.rule.render column [placeholder 0] options.collation,
              [⟨placeholder 0, op.rule.prepare (.str q.text)⟩], [column]⟩) ∧
      (op.rule.takesList = true → ∀ qs : List Quotation, qs ≠ [] →
        let list := '[' :: (join ", ".toList (qs.map Quotation.spelling) ++ [']'])
        byteSize (join [' '] [column, op.symbol, list]) ≤ options.maxLength →
          compile options (join [' '] [column, op.symbol, list]) =
            .ok ⟨column ++ ' ' :: op.rule.keyword ++ " (".toList ++
                join ", ".toList ((List.range qs.length).map placeholder) ++ [')'],
              qs.mapIdx fun i q => ⟨placeholder i, .str q.text⟩, [column]⟩) := by
  constructor
  · intro hone q hlength
    have hliterals : op.rule.literals? (.quoted q.text) = some [.str q.text] := by simp [Rule.literals?, hone]
    exact compile_comparison ⟨column, op, .quoted q.text, _, hliterals⟩ hcolumn q.scan_spelling hlength
  · intro hmany qs hne list hlength
    let raw := join ", ".toList (qs.map Quotation.spelling)
    have hliterals : op.rule.literals? (.list raw) = some (qs.map fun q => .str q.text) := by
      have hitems : qs.map Atom.quotation ≠ [] := by simpa using hne
      have hlisted := Atom.literals?_list hitems hmany
      rwa [Atom.listed_quotations, List.map_map] at hlisted
    have hscan : scan list = .ok [⟨.list raw, 0⟩] := by
      have hclosed := Atom.closed_listed (qs.map .quotation)
      rw [Atom.listed_quotations] at hclosed
      exact scan_list hclosed
    have hcompile := compile_comparison ⟨column, op, .list raw, _, hliterals⟩ hcolumn hscan hlength
    have hbound : (⟨column, op, .list raw, _, hliterals⟩ : Comparison).bound = qs.map fun q => .str q.text := by
      rw [Comparison.bound, List.map_map]
      exact List.map_congr_left fun q _ => Rule.prepare_of_takesList hmany _
    have hparameters : parametersFrom 0 (qs.map fun q => .str q.text) =
        qs.mapIdx fun i q => ⟨placeholder i, .str q.text⟩ := by
      apply List.ext_getElem <;> simp [parametersFrom]
    rw [hcompile, Comparison.render, hbound, hparameters, Rule.render_of_takesList hmany, List.length_map,
      List.range_eq_range']

/-- Brackets, commas, operators, the other quote and line ends in quotes, and nothing in quotes. -/
theorem compile_verbatim_brackets :
    let options : Options := ⟨"NOCASE".toList, 64⟩
    compile options "ß_ !_-= '],[ \"&& x\n'".toList =
        .ok ⟨"ß_ NOT LIKE @p0 COLLATE NOCASE".toList, [⟨"@p0".toList, .str "%],[ \"&& x\n%".toList⟩], ["ß_".toList]⟩ ∧
      compile options "ß_ !^^ [\"', ']\", '', ' [,\"']".toList =
        .ok ⟨"ß_ NOT IN (@p0, @p1, @p2)".toList,
          [⟨"@p0".toList, .str "', ']".toList⟩, ⟨"@p1".toList, .str []⟩, ⟨"@p2".toList, .str " [,\"".toList⟩],
          ["ß_".toList]⟩ := by
  intro options
  let contains : TestOperator := ⟨⟨"!_-=".toList, .like true .anywhere⟩, by decide, rfl⟩
  let member : TestOperator := ⟨⟨"!^^".toList, .member true⟩, by decide, rfl⟩
  let q : Quotation := ⟨'\'', "],[ \"&& x\n".toList, rfl, by decide⟩
  let qs : List Quotation :=
    [⟨'"', "', ']".toList, rfl, by decide⟩, ⟨'\'', [], rfl, by decide⟩, ⟨'\'', " [,\"".toList, rfl, by decide⟩]
  have hcolumn : scan "ß_".toList = .ok [⟨.word "ß_".toList, 0⟩] := by decide +kernel
  have hone := (@compile_verbatim options _ _ hcolumn contains).1 rfl q (by decide +kernel)
  have hmany := (@compile_verbatim options _ _ hcolumn member).2 rfl qs (List.cons_ne_nil _ _) (by decide +kernel)
  constructor
  · refine Eq.trans (congrArg (compile options) ?_) (hone.trans ?_) <;> decide +kernel
  · refine Eq.trans (congrArg (compile options) ?_) (hmany.trans ?_) <;> decide +kernel

end Roster.Filter
