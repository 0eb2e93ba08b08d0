/-
  Localization: the languages in which a localized field is held.

  * A `Localization` has at least one locale, none of them blank or repeated, and its fallback is
    one of them; this is part of the type, and `Localization.check` establishes it.
  * A localized field has one column for each locale, named by `columnNames`.
-/
import TableService.Error
import TableService.Text.Blank

namespace TableService

/-- The locales of a service, with the one to fall back to. -/
structure Localization where
  locales : List String
  fallback : String
  distinct : locales.Nodup
  fallback_mem : fallback ∈ locales

namespace Localization

/-- Why locales cannot be used. -/
inductive Fault where
  | blankLocale
  | noLocales
  | unknownFallback (fallback : String) (locales : List String)
  deriving DecidableEq, Repr

/-- The error reported for a fault. -/
def Fault.toError : Fault → Error
  | .blankLocale => .config "Empty locale in localization.locales"
  | .noLocales => .config "Localization is enabled but no locales are configured"
  | .unknownFallback fallback locales =>
    .config ("Fallback locale " ++ fallback ++ " is not one of the configured locales: " ++
      commaSpaced locales)

/-- Keeps the first of equal texts. -/
def firsts : List String → List String
  | [] => []
  | s :: rest => s :: (firsts rest).filter (· ≠ s)

theorem nodup_firsts (l : List String) : (firsts l).Nodup := by
  induction l with
  | nil => exact .nil
  | cons s rest ih =>
    refine List.nodup_cons.2 ⟨fun h => ?_, ih.filter _⟩
    simpa using (List.mem_filter.1 h).2

/-- The localization with these locales, blanks at their ends left out. -/
def check (locales : List String) (fallback : String) : Except Fault Localization :=
  let trimmed := locales.map Text.trim
  if trimmed.contains "" then .error .blankLocale
  else
    let kept := firsts trimmed
    if kept.isEmpty then .error .noLocales
    else if h : fallback ∈ kept then .ok ⟨kept, fallback, nodup_firsts trimmed, h⟩
    else .error (.unknownFallback fallback kept)

/-- The columns of a localized field, one for each locale. -/
def columnNames (l : Localization) (field : String) : List String :=
  l.locales.map fun locale => field ++ "_" ++ locale

end Localization

end TableService
