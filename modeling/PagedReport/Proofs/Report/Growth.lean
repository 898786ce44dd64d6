import PagedReport.Proofs.Report.DocumentText
import PagedReport.Proofs.Width.Sample

/-! Reports of growing tables. A document is its table's markup between a beginning, which depends on
the table by its estimate only, and a fixed end. Once a table has the rows that are sampled, more rows
change neither the estimate nor the head, so all that they do is to add their own blocks after the
last row. -/
namespace PagedReport.Report

open Template

def documentEnd : String := "\n</body>\n</html>\n"

theorem getLast?_texts_documentTemplate :
    (texts documentTemplate).getLast? = some documentEnd := by
  rw [texts, documentTemplate, String.toList_ofList]
  decide +kernel

/-- What goes into the slots before the table's. -/
def leadingValues (width : UInt32) (options : Options) : List String := [
  options.title,
  styleSheet (Geometry.select width options.autoResize).value width,
  options.title,
  descriptionMarkup options.description]

def documentStart (width : UInt32) (options : Options) : String :=
  inTurn (texts documentTemplate).dropLast (leadingValues width options)

theorem document_around_table (t : Table) (options : Options) :
    (document t options).value =
      documentStart (Width.estimate t) options ++ tableMarkup t ++ documentEnd := by
  have slots : (texts documentTemplate).length =
      (leadingValues (Width.estimate t) options).length + 2 := by
    simp [length_texts, slots_documentTemplate, leadingValues]
  have filled : (document t options).value = inTurn (texts documentTemplate)
      (leadingValues (Width.estimate t) options ++ [tableMarkup t]) := value_document t options
  rw [filled, inTurn_last getLast?_texts_documentTemplate slots, documentStart]

/-- A table's markup up to its last row. -/
def openMarkup (t : Table) : String := headMarkup t.columns ++ String.join (t.rows.map rowMarkup)

/-- The markup of the rows that pushes add to a table. -/
def addedMarkup (t : Table) (pushes : List Push) : String :=
  String.join ((pushes.mapIdx fun i push => push.row t.columns.length (t.rows.length + i)).map
    rowMarkup)

theorem openMarkup_grow (t : Table) (pushes : List Push) :
    openMarkup (t.grow pushes) = openMarkup t ++ addedMarkup t pushes := by
  simp [openMarkup, addedMarkup, Table.rows_grow, String.append_assoc]

/-- Rows pushed onto a table of ten or more change nothing but the markup, where their blocks follow
the last row's in the order of the pushes: the estimate, the page and the style sheet stay as they are,
and so does all other text of the document. -/
theorem document_grow {t : Table} (sampled : 10 ≤ t.rows.length) (pushes : List Push)
    (options : Options) :
    let more := t.grow pushes
    let width := Width.estimate t
    let page := Geometry.select width options.autoResize
    let rows := headMarkup t.columns ++ String.join (t.rows.map rowMarkup)
    let added := String.join ((pushes.mapIdx fun i push =>
      push.row t.columns.length (t.rows.length + i)).map rowMarkup)
    (Width.estimate more = width ∧
      Geometry.select (Width.estimate more) options.autoResize = page ∧
      styleSheet (Geometry.select (Width.estimate more) options.autoResize).value
        (Width.estimate more) = styleSheet page.value width) ∧
    (tableMarkup t = rows ++ "  </tbody>\n</table>" ∧
      tableMarkup more = rows ++ added ++ "  </tbody>\n</table>") ∧
    ∃ start : String,
      (document t options).value = start ++ rows ++ "  </tbody>\n</table>\n</body>\n</html>\n" ∧
      (document more options).value =
        start ++ rows ++ added ++ "  </tbody>\n</table>\n</body>\n</html>\n" := by
  intro more width page rows added
  have same : Width.estimate more = width := Width.estimate_grow sampled pushes
  have before : tableMarkup t = rows ++ tailMarkup := rfl
  have after : tableMarkup more = rows ++ added ++ tailMarkup := by
    exact congrArg (· ++ tailMarkup) (openMarkup_grow t pushes)
  have close : tailMarkup ++ documentEnd = "  </tbody>\n</table>\n</body>\n</html>\n" := rfl
  refine ⟨⟨same, by rw [same], by rw [same]⟩, ⟨before, after⟩, documentStart width options, ?_, ?_⟩
  · rw [document_around_table, before]
    simp only [String.append_assoc, close, width]
  · rw [document_around_table, same, after]
    simp only [String.append_assoc, close]

/-- Ten rows and two more, which hold what looks like the end of the rows and like a slot. -/
theorem document_grow_lookalikes :
    let t := (Table.empty ["c"]).grow (List.replicate 10 ⟨none, [.text "ab"]⟩)
    let more := t.grow [⟨some "  </tbody>", [.text "\x7b\x7bTABLE\x7d\x7d"]⟩, ⟨none, []⟩]
    10 ≤ t.rows.length ∧ Width.estimate more = Width.estimate t ∧
      ∃ start : String,
        (document t .standard).value = start ++ "  </tbody>\n</table>\n</body>\n</html>\n" ∧
        (document more .standard).value = start ++
          "    <tr>\n      <th>  </tbody></th>\n      <td>\x7b\x7bTABLE\x7d\x7d</td>\n    </tr>\n" ++
          "    <tr>\n      <th>11</th>\n      <td></td>\n    </tr>\n" ++
          "  </tbody>\n</table>\n</body>\n</html>\n" := by
  intro t more
  have names : t.columns = ["c"] := Table.columns_grow _ _
  have count : t.rows.length = 10 := by simp [t, Table.empty]
  have sampled : 10 ≤ t.rows.length := by omega
  obtain ⟨⟨estimate, -, -⟩, -, start, before, after⟩ := document_grow sampled
    [⟨some "  </tbody>", [.text "\x7b\x7bTABLE\x7d\x7d"]⟩, ⟨none, []⟩] .standard
  refine ⟨sampled, estimate, _, before, ?_⟩
  have eleventh : Nat.repr 11 = "11" := rfl
  rw [after]
  simp [names, count, eleventh, Push.row, fitted, rowMarkup, headerMarkup, cellMarkup, Cell.isAbsent,
    Cell.shown, List.mapIdx_cons, String.append_assoc]

end PagedReport.Report
