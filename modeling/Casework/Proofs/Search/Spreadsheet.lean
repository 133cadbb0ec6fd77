import Casework.Proofs.Search.Paging

set_option autoImplicit false

namespace Casework

open Calendar

namespace Csv

section Places

variable (fields : List (List Char)) (field : List Char) (letter : Char) (rest : List Char)

theorem readFrom_inQuotes_cons : readFrom .inQuotes fields field (letter :: rest) =
    if letter = '"' then readFrom .afterQuote fields field rest
    else readFrom .inQuotes fields (letter :: field) rest := rfl

theorem readFrom_afterQuote_cons : readFrom .afterQuote fields field (letter :: rest) =
    if letter = '"' then readFrom .inQuotes fields ('"' :: field) rest
    else if letter = ',' then readFrom .start (field.reverse :: fields) [] rest
    else if letter = '\n' then (field.reverse :: fields).reverse :: readFrom .start [] [] rest
    else readFrom .bare fields (letter :: field) rest := rfl

theorem readFrom_start_cons : readFrom .start fields field (letter :: rest) =
    if letter = '"' then readFrom .inQuotes fields field rest
    else if letter = ',' then readFrom .start (field.reverse :: fields) [] rest
    else if letter = '\n' then
      if fields.isEmpty then readFrom .start [] [] rest
      else (field.reverse :: fields).reverse :: readFrom .start [] [] rest
    else readFrom .bare fields (letter :: field) rest := by
  cases fields <;> rfl

theorem readFrom_bare_cons : readFrom .bare fields field (letter :: rest) =
    if letter = ',' then readFrom .start (field.reverse :: fields) [] rest
    else if letter = '\n' then (field.reverse :: fields).reverse :: readFrom .start [] [] rest
    else readFrom .bare fields (letter :: field) rest := rfl

end Places

variable {field : List Char} {fields : List (List Char)}

theorem readFrom_bare (plain : mustQuote field = false) (fields : List (List Char))
    (before rest : List Char) :
    readFrom .bare fields before (field ++ rest) =
      readFrom .bare fields (field.reverse ++ before) rest := by
  induction field generalizing before with
  | nil => rfl
  | cons letter letters ih =>
    simp only [mustQuote, List.any_cons, Bool.or_eq_false_iff, beq_eq_false_iff_ne] at plain
    obtain ⟨⟨⟨⟨comma, -⟩, -⟩, newline⟩, plain⟩ := plain
    simp [readFrom_bare_cons, comma, newline, ih plain]

theorem readFrom_start (plain : mustQuote field = false) (some_letter : field ≠ [])
    (fields : List (List Char)) (rest : List Char) :
    readFrom .start fields [] (field ++ rest) = readFrom .bare fields field.reverse rest := by
  cases field with
  | nil => exact absurd rfl some_letter
  | cons letter letters =>
    simp only [mustQuote, List.any_cons, Bool.or_eq_false_iff, beq_eq_false_iff_ne] at plain
    obtain ⟨⟨⟨⟨comma, quote⟩, -⟩, newline⟩, plain⟩ := plain
    have rest_plain : mustQuote letters = false := plain
    simp [readFrom_start_cons, comma, quote, newline, readFrom_bare rest_plain]

theorem readFrom_inQuotes (fields : List (List Char)) (before field rest : List Char) :
    readFrom .inQuotes fields before (doubleQuotes field ++ '"' :: rest) =
      readFrom .afterQuote fields (field.reverse ++ before) rest := by
  induction field generalizing before with
  | nil => simp [doubleQuotes, readFrom_inQuotes_cons]
  | cons letter letters ih =>
    rw [doubleQuotes] at ih
    by_cases quote : letter = '"'
    · subst quote
      simp [doubleQuotes, readFrom_inQuotes_cons, readFrom_afterQuote_cons, ih]
    · simp [doubleQuotes, readFrom_inQuotes_cons, quote, ih]

theorem readFrom_quoted (fields : List (List Char)) (field rest : List Char) :
    readFrom .start fields [] (quoted field ++ rest) =
      readFrom .afterQuote fields field.reverse rest := by
  have inside := readFrom_inQuotes fields [] field rest
  simp only [List.append_nil] at inside
  simp [quoted, readFrom_start_cons, inside]

theorem readFrom_comma (fields : List (List Char)) (field rest : List Char) :
    readFrom .start fields [] (writtenField field ++ ',' :: rest) =
      readFrom .start (field :: fields) [] rest := by
  unfold writtenField
  split
  next =>
    rw [readFrom_quoted]
    simp [readFrom_afterQuote_cons]
  next plain =>
    by_cases empty : field = []
    · subst empty
      simp [readFrom_start_cons]
    · rw [readFrom_start (by simpa using plain) empty]
      simp [readFrom_bare_cons]

theorem readFrom_newline (field rest : List Char) (given : fields ≠ [] ∨ field ≠ []) :
    readFrom .start fields [] (writtenField field ++ '\n' :: rest) =
      (field :: fields).reverse :: readFrom .start [] [] rest := by
  unfold writtenField
  split
  next =>
    rw [readFrom_quoted]
    simp [readFrom_afterQuote_cons]
  next plain =>
    by_cases empty : field = []
    · subst empty
      have earlier : fields ≠ [] := given.resolve_right fun not_empty => not_empty rfl
      simp [readFrom_start_cons, earlier]
    · rw [readFrom_start (by simpa using plain) empty]
      simp [readFrom_bare_cons]

theorem readFrom_fields (before fields : List (List Char)) (rest : List Char)
    (some_field : fields ≠ []) (given : before ≠ [] ∨ fields ≠ [[]]) :
    readFrom .start before [] ([','].intercalate (fields.map writtenField) ++ '\n' :: rest) =
      (before.reverse ++ fields) :: readFrom .start [] [] rest := by
  induction fields generalizing before with
  | nil => exact absurd rfl some_field
  | cons field fields ih =>
    cases fields with
    | nil =>
      have single : before ≠ [] ∨ field ≠ [] := by simpa using given
      simpa using readFrom_newline field rest single
    | cons next fields =>
      have further := ih (field :: before) (by simp) (by simp)
      simp only [List.map_cons, List.intercalate_cons_cons, List.append_assoc, List.cons_append,
        List.nil_append] at further ⊢
      rw [readFrom_comma, further]
      simp

theorem readFrom_writtenRecord (rest : List Char) (some_field : fields ≠ []) :
    readFrom .start [] [] (writtenRecord fields ++ rest) =
      fields :: readFrom .start [] [] rest := by
  unfold writtenRecord
  split
  next single =>
    rw [List.append_assoc, readFrom_quoted, single]
    simp [readFrom_afterQuote_cons]
  next several =>
    rw [List.append_assoc]
    exact readFrom_fields [] fields rest some_field (.inr several)

theorem records_written (table : List (List (List Char)))
    (filled : ∀ fields ∈ table, fields ≠ []) : records (written table) = table := by
  unfold records written
  induction table with
  | nil => rfl
  | cons fields table ih =>
    obtain ⟨some_field, filled⟩ := List.forall_mem_cons.1 filled
    rw [List.flatMap_cons, readFrom_writtenRecord _ some_field, ih filled]

end Csv

namespace Spreadsheet

def columns : CaseType → Nat
  | .importing => 19
  | .exporting => 10

def read (bytes : ByteArray) : Option (List (List String)) :=
  (String.fromUTF8? bytes).map fun text => (Csv.records text.toList).map (·.map String.ofList)

def cell (caseType : CaseType) (line : List String) (header : String) : Option String :=
  ((headers caseType).zip line).lookup header

/-- What stands under each header in the line of an import. -/
structure ShowsImport (row : ImportRow) (cell : String → Option String) : Prop where
  reference : cell "Case Reference" = some row.summary.reference
  applicantReference :
    cell "Applicant's Reference" = some (row.summary.applicantReference.getD "")
  licenceReference : cell "Licence Reference" = some (row.summary.licenceReference.getD "")
  medium : cell "Licence Type" = some row.summary.medium
  startDate : cell "Licence Start Date" = some (row.summary.startDate.getD "")
  endDate : cell "Licence End Date" = some (row.summary.endDate.getD "")
  typeLabel : cell "Application Type" = some row.summary.typeLabel
  subTypeLabel : cell "Application Sub-Type" = some row.summary.subTypeLabel
  status : cell "Case Status" = some row.summary.status
  usage : cell "Chief Usage Status" = some (row.summary.usage.getD "")
  submitted : cell "Submitted Date" = some row.submitted
  organisation : cell "Importer" = some row.applicant.organisation
  agent : cell "Agent" = some (row.applicant.agent.getD "")
  contact : cell "Application Contact" = some row.applicant.contact
  origin : cell "Country of Origin" = some row.commodity.origin
  consignment : cell "Country of Consignment" = some (row.commodity.consignment.getD "")
  shippingYear : cell "Shipping Year" =
    some ((row.commodity.shippingYear.map Text.signedNumeral).getD "")
  category : cell "Goods Category" = some (row.commodity.category.getD "")
  commodityCodes : cell "Commodity Code(s)" =
    some (", ".intercalate (row.commodity.codes.getD []))

structure ShowsExport (row : ExportRow) (cell : String → Option String) : Prop where
  reference : cell "Case Reference" = some row.reference
  certificates : cell "Certificates" = some (", ".intercalate row.certificates)
  typeLabel : cell "Application Type" = some row.typeLabel
  status : cell "Status" = some row.status
  submitted : cell "Submitted Date" = some row.submitted
  origins : cell "Certificate Countries" = some (", ".intercalate row.origins)
  manufacturers : cell "Countries of Manufacture" = some (", ".intercalate row.manufacturers)
  organisation : cell "Exporter" = some row.organisation
  agent : cell "Agent" = some (row.agent.getD "")
  contact : cell "Application Contact" = some row.contact

inductive Shows : CaseType → ResultRow → List String → Prop where
  | imported {row : ImportRow} {line : List String} (length : line.length = 19)
      (shows : ShowsImport row (cell .importing line)) : Shows .importing (.imported row) line
  | exported {row : ExportRow} {line : List String} (length : line.length = 10)
      (shows : ShowsExport row (cell .exporting line)) : Shows .exporting (.exported row) line

theorem commodityCodes_getD (row : ImportRow) :
    (importLine row).commodityCodes.getD "" = ", ".intercalate (row.commodity.codes.getD []) := by
  rw [importLine]
  cases row.commodity.codes with
  | none => rfl
  | some codes => cases codes <;> rfl

theorem showsImport_cells (row : ImportRow) :
    ShowsImport row (cell .importing (importLine row).cells) where
  reference := rfl
  applicantReference := rfl
  licenceReference := rfl
  medium := rfl
  startDate := rfl
  endDate := rfl
  typeLabel := rfl
  subTypeLabel := rfl
  status := rfl
  usage := rfl
  submitted := rfl
  organisation := rfl
  agent := rfl
  contact := rfl
  origin := rfl
  consignment := rfl
  shippingYear := rfl
  category := rfl
  commodityCodes := by
    rw [← commodityCodes_getD]
    rfl

theorem showsExport_cells (row : ExportRow) :
    ShowsExport row (cell .exporting (exportLine row).cells) :=
  ⟨rfl, rfl, rfl, rfl, rfl, rfl, rfl, rfl, rfl, rfl⟩

theorem shows_of_cells {caseType : CaseType} {row : ResultRow} {line : List String}
    (shown : cells? caseType row = some line) : Shows caseType row line := by
  cases caseType <;> cases row <;> cases shown
  case importing.imported row => exact .imported rfl (showsImport_cells row)
  case exporting.exported row => exact .exported rfl (showsExport_cells row)

theorem length_headers (caseType : CaseType) : (headers caseType).length = columns caseType := by
  cases caseType <;> rfl

theorem Shows.length {caseType : CaseType} {row : ResultRow} {line : List String}
    (shows : Shows caseType row line) : line.length = columns caseType := by
  cases shows <;> assumption

theorem length_records {caseType : CaseType} {results : SearchResults} {line : List String}
    (member : line ∈ records caseType results) : line.length = columns caseType := by
  rcases List.mem_cons.1 member with rfl | member
  · exact length_headers caseType
  · obtain ⟨row, -, shown⟩ := List.mem_filterMap.1 member
    exact (shows_of_cells shown).length

theorem columns_ne_zero (caseType : CaseType) : columns caseType ≠ 0 := by
  cases caseType <;> decide

theorem read_text (caseType : CaseType) (results : SearchResults) :
    read (text caseType results).toUTF8 = some (records caseType results) := by
  have decoded : String.fromUTF8? (text caseType results).toUTF8 =
      some (text caseType results) := dif_pos (text caseType results).isValidUTF8
  have filled : ∀ fields ∈ (records caseType results).map (·.map String.toList), fields ≠ [] := by
    intro fields member
    obtain ⟨line, listed, rfl⟩ := List.mem_map.1 member
    have width := length_records listed
    have columns := columns_ne_zero caseType
    rintro empty
    rw [List.map_eq_nil_iff.1 empty] at width
    exact columns width.symm
  rw [read, decoded, Option.map_some, text, String.toList_ofList, Csv.records_written _ filled]
  simp

theorem exists_cells (terms : SearchTerms) (store : Store) (today : Date)
    (application : Application) :
    ∃ line, cells? terms.caseType (terms.row store today application) = some line := by
  rw [← Option.isSome_iff_exists]
  unfold SearchTerms.row Finding.row
  cases terms.caseType <;> rfl

-- No row is left out where each has a line.
theorem shows_records {caseType : CaseType} {rows : List ResultRow}
    (shown : ∀ row ∈ rows, ∃ line, cells? caseType row = some line) :
    List.Forall₂ (Shows caseType) rows (rows.filterMap (cells? caseType)) := by
  induction rows with
  | nil => exact .nil
  | cons row rows ih =>
    obtain ⟨⟨line, same⟩, rest⟩ := List.forall_mem_cons.1 shown
    rw [List.filterMap_cons, same]
    exact .cons (shows_of_cells same) (ih rest)

end Spreadsheet

section Searched

variable {system : System} {terms : SearchTerms} {found : List Application}

theorem System.search_run (setting : Setting) (usable : system.isPoisoned = false)
    (searched : terms.found system.store = .ok found) (limit : Nat) :
    Work.search terms (some limit) (setting.around system) system.desk =
      (.ok ⟨found.length, (found.take limit).map (terms.row system.store setting.now.date)⟩,
        system.desk) := by
  have shown := results_of_found searched setting.now.date limit
  have available : (setting.around system).available = true := by simp [Setting.around, usable]
  refine Work.bind_eq_ok_iff.2 ⟨(), _, Work.enter_eq_ok_iff.2 ⟨available, rfl⟩, ?_⟩
  exact Work.bind_eq_ok_iff.2 ⟨_, _, rfl, Work.ask_eq_ok_iff.2 ⟨shown, rfl⟩⟩

-- No search finds more than is stored, so a search for as many shows all that it finds.
theorem length_found_le (searched : terms.found system.store = .ok found) :
    found.length ≤ system.store.applications.rows.length := by
  obtain ⟨status, -, rfl⟩ := found_eq_ok_iff.1 searched
  rw [(newestFirst_perm _ _).length_eq]
  exact List.length_filter_le _ _

theorem System.spreadsheet_run (setting : Setting) (usable : system.isPoisoned = false)
    (searched : terms.found system.store = .ok found) :
    Work.spreadsheet terms (setting.around system) system.desk =
      (.ok (Spreadsheet.text terms.caseType
        ⟨found.length, found.map (terms.row system.store setting.now.date)⟩), system.desk) := by
  have ran := System.search_run setting usable searched system.store.applications.rows.length
  rw [List.take_of_length_le (length_found_le searched)] at ran
  have available : (setting.around system).available = true := by simp [Setting.around, usable]
  refine Work.bind_eq_ok_iff.2 ⟨(), _, Work.enter_eq_ok_iff.2 ⟨available, rfl⟩, ?_⟩
  refine Work.bind_eq_ok_iff.2 ⟨_, _, rfl, ?_⟩
  exact Work.bind_eq_ok_iff.2 ⟨_, _, ran, rfl⟩

end Searched

/-- The file that a spreadsheet is written to reads back as its header and one line for each row
that a search without a limit shows, in the order of the search, with the values of the row under
the headers of their columns, whatever commas, quotes and line ends they contain. -/
theorem spreadsheet_reads_back (system : System) (setting : Setting) (terms : SearchTerms)
    {status : Option StatusFilter} (usable : system.isPoisoned = false)
    (compiles : terms.statusFilter = .ok status) :
    ∃ text found results lines,
      system.perform setting (.spreadsheet terms) = (.ok (.spreadsheet text), system) ∧
      terms.found system.store = .ok found ∧
      results.rows = found.map (terms.row system.store setting.now.date) ∧
      (∀ limit, results.total ≤ limit →
        system.perform setting (.search terms (some limit)) = (.ok (.results results), system)) ∧
      Spreadsheet.read text.toUTF8 = some (Spreadsheet.headers terms.caseType :: lines) ∧
      lines.length = results.total ∧
      List.Forall₂ (Spreadsheet.Shows terms.caseType) results.rows lines ∧
      ∀ line ∈ Spreadsheet.headers terms.caseType :: lines,
        line.length = Spreadsheet.columns terms.caseType := by
  obtain ⟨found, searched⟩ := exists_found compiles system.store
  let results : SearchResults :=
    ⟨found.length, found.map (terms.row system.store setting.now.date)⟩
  have shown : List.Forall₂ (Spreadsheet.Shows terms.caseType) results.rows
      (results.rows.filterMap (Spreadsheet.cells? terms.caseType)) := by
    refine Spreadsheet.shows_records fun row member => ?_
    obtain ⟨application, -, rfl⟩ := List.mem_map.1 member
    exact Spreadsheet.exists_cells terms system.store setting.now.date application
  have written := Spreadsheet.read_text terms.caseType results
  refine ⟨Spreadsheet.text terms.caseType results, found, results, _, ?_, searched, rfl,
    fun limit all => ?_, written, ?_, shown, fun _ member => Spreadsheet.length_records member⟩
  · have performed : (Operation.spreadsheet terms).work (setting.around system) system.desk =
        (.ok (.spreadsheet (Spreadsheet.text terms.caseType results)), system.desk) :=
      Work.map_eq_ok_iff.2 ⟨_, System.spreadsheet_run setting usable searched, rfl⟩
    exact System.perform_of_ok performed
  · have ran := System.search_run setting usable searched limit
    rw [List.take_of_length_le all] at ran
    have performed : (Operation.search terms (some limit)).work (setting.around system)
        system.desk = (.ok (.results results), system.desk) :=
      Work.map_eq_ok_iff.2 ⟨_, ran, rfl⟩
    exact System.perform_of_ok performed
  · exact shown.length_eq.symm.trans (List.length_map _)

namespace Sample

def awkwardName : String := "Acme, \"Ltd\"\r\nŁódź, \"\""

def awkward : System :=
  System.initial.follow [step false (.create user
    ⟨.manufacture, user, awkwardName, none, none, some (.certified ⟨["France"], [], []⟩)⟩)]

def looking : Setting := (step false (.spreadsheet exports)).setting

theorem awkward_found : exports.found awkward.store = .ok awkward.store.applications.rows := by
  have all : ∀ application ∈ awkward.store.applications.rows,
      exports.admits none awkward.store application := by
    decide +kernel
  have alone : awkward.store.applications.rows.length = 1 := by decide +kernel
  obtain ⟨application, only⟩ := List.length_eq_one_iff.1 alone
  refine found_eq_ok_iff.2 ⟨none, rfl, ?_⟩
  rw [List.filter_eq_self.2 all, only]
  exact List.mergeSort_singleton _

theorem awkward_shown : ∃ row : ExportRow, row.organisation = awkwardName ∧ row.agent = none ∧
    awkward.store.applications.rows.map (exports.row awkward.store looking.now.date) =
      [.exported row] := by
  have named : (awkward.store.applications.rows.map
      (exports.row awkward.store looking.now.date)).map (fun
        | .exported row => some (row.organisation, row.agent)
        | .imported _ => none) = [some (awkwardName, none)] := by
    decide +kernel
  obtain ⟨row, only, shown⟩ := List.map_eq_singleton_iff.1 named
  cases row with
  | imported => cases shown
  | exported row =>
    obtain ⟨organisation, agent⟩ := Prod.mk.inj (Option.some.inj shown)
    exact ⟨row, organisation, agent, only⟩

end Sample

theorem awkward_reads_back :
    Sample.awkward.isPoisoned = false ∧ Sample.exports.statusFilter = .ok none ∧
      ∃ text line, (Sample.awkward.perform Sample.looking (.spreadsheet Sample.exports)).1 =
          .ok (.spreadsheet text) ∧
        Spreadsheet.read text.toUTF8 = some [Spreadsheet.exportHeaders, line] ∧
        Spreadsheet.cell .exporting line "Exporter" = some Sample.awkwardName ∧
        Spreadsheet.cell .exporting line "Agent" = some "" := by
  have usable : Sample.awkward.isPoisoned = false := by decide +kernel
  obtain ⟨text, found, results, lines, performed, searched, rows, -, written, -, shown, -⟩ :=
    spreadsheet_reads_back Sample.awkward Sample.looking Sample.exports usable rfl
  obtain rfl := Except.ok.inj (Sample.awkward_found.symm.trans searched)
  obtain ⟨row, organisation, agent, only⟩ := Sample.awkward_shown
  rw [rows, only] at shown
  obtain ⟨line, others, shows, none, rfl⟩ := List.forall₂_cons_left_iff.1 shown
  cases none
  cases shows with
  | exported length shows =>
    refine ⟨usable, rfl, text, line, congrArg Prod.fst performed, written, ?_, ?_⟩
    · rw [shows.organisation, organisation]
    · rw [shows.agent, agent]
      rfl

end Casework
