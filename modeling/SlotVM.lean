import SlotVM.Attribute
import SlotVM.Main
import SlotVM.Proofs.BoundVariables
import SlotVM.Proofs.ClassOrder
import SlotVM.Proofs.ForwardCode
import SlotVM.Proofs.JumpPatching
import SlotVM.Proofs.ListedCode
import SlotVM.Proofs.WiderLimits
import SlotVM.Proofs.Identity
import SlotVM.Proofs.RepeatedRuns
import SlotVM.Proofs.DictMap
import SlotVM.Proofs.OperatorFallback
import SlotVM.Proofs.SentinelContainment
import SlotVM.Proofs.TypedFields
import SlotVM.Proofs.DebugData
import SlotVM.Proofs.ExplicitReturn
import SlotVM.Proofs.HashEquality
import SlotVM.Proofs.WrappingPower
import SlotVM.Proofs.TableSlots
import SlotVM.Proofs.RaisedExceptions
import SlotVM.Proofs.MessageLimit
import SlotVM.Proofs.FieldRoundTrip
import SlotVM.Proofs.MembershipSearch
import SlotVM.Proofs.CompleteListing
import SlotVM.Proofs.JumpTargets
import SlotVM.Proofs.WholeModules
import SlotVM.Proofs.TextSequence
import SlotVM.Proofs.TotalOrder
import SlotVM.Proofs.IntegerArithmetic
import SlotVM.Proofs.LongestPrefix
import SlotVM.Proofs.TableGrowth
import SlotVM.Proofs.ExactDecoding
