import SchemaConcord.Proofs.Form.Scan
import SchemaConcord.Proofs.Route.Scan

/-!
# Malformed files

A file that cannot be read or understood costs a check of the project that file only: the check succeeds, with the
result that it has without the file, and a warning. Two kinds of template are the exception and fail the check of
forms as a whole: markup with an unknown section, and a length without bound.
-/

namespace SchemaConcord

namespace FileTree

variable {t : FileTree}

end FileTree

/-! ## A project with a malformed template and a malformed source -/

def shopForms : FormProject := ⟨{ patterns := [], directories := ["forms"] }, ⟨"/", ["shop"]⟩⟩

def shopRoutes : RouteProject :=
  ⟨{ patterns := [], directories := ["routes"], strict := true, outputDirectory := "stubs" }, ⟨"/", ["shop"]⟩⟩

def shopSchema : Snapshot := ⟨"1", ⟨2024, 5, 1, 12, 0, 0, 0, some 0⟩, [⟨"orders", [], none, []⟩], none, none⟩

/-- Two templates, one with a length to be chosen, and a source that ends amid a definition. -/
def shop (length : String) : FileTree where
  entries := [(["shop"], .directory 0),
    (["shop", "forms"], .directory 0),
    (["shop", "forms", "bad.html"], .file (.text ("<input name=\"a\" maxlength=\"" ++ length ++ "\">")) 0),
    (["shop", "forms", "good.html"], .file (.text "<form id=\"orders\"><input name=\"id\"></form>") 0),
    (["shop", "routes"], .directory 0),
    (["shop", "routes", "bad.py"], .file (.text "def f(:") 0)]
  home := []
  clock := 0

def badForm : Path := ⟨"/", ["shop", "forms", "bad.html"]⟩

def goodForm : Path := ⟨"/", ["shop", "forms", "good.html"]⟩

def badSource : Path := ⟨"/", ["shop", "routes", "bad.py"]⟩

theorem shop_consistent (length : String) : (shop length).Consistent := by
  refine ⟨?_, List.not_mem_nil⟩
  show [["shop"], ["shop", "forms"], ["shop", "forms", "bad.html"], ["shop", "forms", "good.html"],
    ["shop", "routes"], ["shop", "routes", "bad.py"]].Nodup
  decide

theorem shopForms_files (length : String) : shopForms.files (shop length) = .ok [badForm, goodForm] :=
  FileTree.discover_of_sources rfl rfl (by decide) (by decide)

theorem shopRoutes_files (length : String) : shopRoutes.files (shop length) = .ok [badSource] :=
  FileTree.discover_of_sources rfl rfl (by decide) (by decide)

theorem shopForms_undefined : (shop "nan").readText badForm = .ok "<input name=\"a\" maxlength=\"nan\">" ∧
    Form.extract "<input name=\"a\" maxlength=\"nan\">" (shopForms.root.shownFrom badForm) badForm.stem =
      .error (.length .undefined) := by
  constructor <;> decide +kernel

theorem shopForms_infinite : (shop "inf").readText badForm = .ok "<input name=\"a\" maxlength=\"inf\">" ∧
    Form.extract "<input name=\"a\" maxlength=\"inf\">" (shopForms.root.shownFrom badForm) badForm.stem =
      .error (.length .infinite) := by
  constructor <;> decide +kernel

theorem shopForms_whole (length : String) :
    (shop length).readText goodForm = .ok "<form id=\"orders\"><input name=\"id\"></form>" ∧
      fault? (Form.extract "<form id=\"orders\"><input name=\"id\"></form>" (shopForms.root.shownFrom goodForm)
        goodForm.stem) = none := by
  refine ⟨rfl, ?_⟩
  decide +kernel

theorem shopRoutes_malformed (length : String) : (shop length).readText badSource = .ok "def f(:" ∧
    RouteSource.extract "def f(:" (shopRoutes.root.shownFrom badSource) = .error .malformed := by
  refine ⟨rfl, ?_⟩
  decide +kernel

end SchemaConcord
