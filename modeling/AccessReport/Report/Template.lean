import AccessReport.Content.Tree
import AccessReport.Failure
import AccessReport.Registry
import AccessReport.Text.Quoted

/-!
How a service may present its own content. A service without a template is listed.
-/

namespace AccessReport

structure Template where
  service : String
  -- the block of text under the heading of the service
  render  : Normalized → Except Failure String

-- Templates under the names of their services, in which case does not matter.
structure TemplateRegistry where
  byService : Registry Template := .empty

namespace TemplateRegistry

def key (service : String) : String :=
  String.ofList (Case.lower service.toList)

def register (r : TemplateRegistry) (t : Template) : TemplateRegistry :=
  ⟨r.byService.register (key t.service) t⟩

def find? (r : TemplateRegistry) (service : String) : Option Template :=
  r.byService.find? (key service)

def contains (r : TemplateRegistry) (service : String) : Bool :=
  r.byService.contains (key service)

def size (r : TemplateRegistry) : Nat :=
  r.byService.size

def describe (r : TemplateRegistry) : String :=
  "TemplateRegistry \x7b services: [" ++
    ", ".intercalate (r.byService.keys.map Quoted.quote) ++ "] \x7d"

end TemplateRegistry
end AccessReport
