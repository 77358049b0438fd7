/-!
Namespaces and the prefixes that are bound to them.
-/

namespace SurveyForm.Xml

/-- The namespace that the prefix `xml` is bound to everywhere. -/
def xmlUri : String :=
  "http://www.w3.org/XML/1998/namespace"

/-- The namespace of the attributes that bind namespaces. -/
def xmlnsUri : String :=
  "http://www.w3.org/2000/xmlns/"

/-- A prefix for a namespace; the default namespace has the empty prefix. -/
structure NamespaceBinding where
  prefixName : String
  uri : String
deriving DecidableEq, Repr

namespace NamespaceBinding

/-- Whether one of the bindings is about a prefix. -/
def binds (bindings : List NamespaceBinding) (prefixName : String) : Bool :=
  bindings.any (·.prefixName = prefixName)

/-- The bindings in scope inside the given ones.  The inner ones hide those of the
same prefix. -/
def scopeWithin (outer own : List NamespaceBinding) : List NamespaceBinding :=
  own ++ outer.filter fun binding => !binds own binding.prefixName

/-- The namespace that a prefix stands for. -/
def uri? (scope : List NamespaceBinding) (prefixName : String) : Option String :=
  if prefixName = "xml" then some xmlUri
  else (scope.find? (·.prefixName = prefixName)).map (·.uri)

end NamespaceBinding

end SurveyForm.Xml
