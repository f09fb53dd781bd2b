/-!
# Kubeconfig documents

The document that tells how to reach a cluster. It carries credentials, so its display form shows
nothing of it.
-/

namespace FleetGate

/-- A kubeconfig document. -/
structure Kubeconfig where
  text : String
  deriving DecidableEq

namespace Kubeconfig

/-- A document from bytes that must be UTF-8. -/
def ofBytes? (bytes : List UInt8) : Option Kubeconfig :=
  (String.fromUTF8? ⟨bytes.toArray⟩).map Kubeconfig.mk

/-- The display form. -/
def shown (_ : Kubeconfig) : String := "KubeconfigData(\"[REDACTED]\")"

end Kubeconfig

end FleetGate
