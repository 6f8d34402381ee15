import Recast.Binary.Interchange
import Recast.Proofs.Context.SameType
import Recast.Proofs.Conversion.Refinement
import Recast.Proofs.Conversion.Refusals
import Recast.Proofs.Registry.Hierarchy
import Recast.Shared
import Recast.Proofs.Registry.Wrappers
import Recast.Proofs.Registry.Description
import Recast.Proofs.Registry.Extension
import Recast.Proofs.Conversion.Existence
import Recast.Proofs.Conversion.Conservation
import Recast.Proofs.Conversion.Lifting
import Recast.Proofs.TypeHash.Wrapping
import Recast.Proofs.Registry.Orders
import Recast.Proofs.Context.Validity
import Recast.Proofs.Context.Absence
import Recast.Proofs.Context.EntryPoints
import Recast.Proofs.Conversion.Duality
import Recast.Proofs.Scalar.Widening
import Recast.Proofs.Scalar.Detour
import Recast.Proofs.Conversion.Enumerations
import Recast.Proofs.Conversion.Handles
import Recast.Proofs.Context.Registered
import Recast.Proofs.Context.Idempotence
import Recast.Proofs.Inheritance.History
import Recast.Proofs.HostType.Inverse
import Recast.Proofs.Context.DeclaredEnums
import Recast.Proofs.Cache.Traits
