import Iec61850.GoText
import Iec61850.GoOutcome
import Iec61850.GoFuel
import Iec61850.ReferenceCycles
import Iec61850.LinkedForest
import Iec61850.SclModel
import Iec61850.Runtime
import Iec61850.ModelLookup
import Iec61850.ModelValues
import Iec61850.ModelInstantiation
import Iec61850.InstantiationTermination
import Iec61850.SclParser
import Iec61850.ParsedModel
import Iec61850.InstanceValues
import Iec61850.InstancePaths
import Iec61850.ParserSafety
import Iec61850.GeneratorOutput
import Iec61850.GeneratorDataModel
import Iec61850.GeneratorControlBlocks
import Iec61850.StaticModelGenerator
import Iec61850.GeneratorRun
import Iec61850.ControlBlockRun
import Iec61850.ModelForest
import Iec61850.SetpointNames
import Iec61850.LinkedDefinitions
import Iec61850.DefinedVariables
import Iec61850.PointerGraph
import Iec61850.DataSetMembers
import Iec61850.CommunicationAddresses
import Iec61850.DataModelSafety
import Iec61850.GeneratorSafety
import Iec61850.StepRuns
import Iec61850.LiveRegistry
import Iec61850.CallbackRegistries
import Iec61850.Subscriptions
import Iec61850.ClientErrors
import Iec61850.HandleStore
import Iec61850.AsyncRequests
import Iec61850.CText
import Iec61850.ControlSequence
import Iec61850.ControlVariants
import Iec61850.FileDownload
import Iec61850.LastWrite
import Iec61850.ReportControlBlocks
import Iec61850.RcbWrites
import Iec61850.StatDR
import Iec61850.EnabledReports
import Iec61850.SclXml
import Iec61850.GoMap
import Iec61850.CachedQueries
import Iec61850.TypeCache
import Iec61850.MmsVariables
import Iec61850.BoundedGather
import Iec61850.VariableValues
import Iec61850.GroupedVariables
import Iec61850.DirectoryModel
import Iec61850.DataModelMirror
import Iec61850.CLexemes
import Iec61850.PrintedText
import Iec61850.GoPrintf
import Iec61850.GeneratorText
import Iec61850.PlainTexts
import Iec61850.PlainModels
import Iec61850.PlainBlocks
import Iec61850.StringLiterals
import Iec61850.PointerChains
import Iec61850.ControlBlockChains
import Iec61850.SkippedBlocks
import Iec61850.DataSetChains
import Iec61850.ArrayReferences
import Iec61850.LogReferences
import Iec61850.ReportInstances
import Iec61850.ReportDefaults
import Iec61850.ReportNames
import Iec61850.ClientReservations
import Iec61850.EnumeratedValues
import Iec61850.DeclarationOrder
import Iec61850.DeclaredIdentifiers
import Iec61850.WordInsertion
import Iec61850.NamedOutput
import Iec61850.SetpointPlaces
import Iec61850.RenamedModels
import Iec61850.RenamedBlocks
import Iec61850.RenamedFiles
import Iec61850.PrefixReadings
import Iec61850.PrefixIndependence
import Iec61850.GoIntegers
import Iec61850.IntegerValues
import Iec61850.BufferedText
import Iec61850.AddressRanges
import Iec61850.AttributePairs
import Iec61850.UnfoldedTypes
import Iec61850.TypeReferences
import Iec61850.AttributePlaces
import Iec61850.InheritedTriggers
import Iec61850.ShortAddresses
import Iec61850.LabelledTrees
import Iec61850.VariableLeaves
import Iec61850.ReadValues
import Iec61850.CallbackIds
import Iec61850.IntegerWrites
import Iec61850.VariableShapes
import Iec61850.CLiterals
import Iec61850.InitialLiterals
import Iec61850.DelimitedText
import Iec61850.DistinctVariables
import Iec61850.DistinctDefinitions
import Iec61850.DefinedOnce
import Iec61850.Outlines
import Iec61850.DataModelText
import Iec61850.PrintedServers
import Iec61850.VariableSpecText
import Iec61850.DescribedVariables
import Iec61850.ClientLifetime
import Iec61850.TypeIndependence
import Iec61850.TypeOrder
import Iec61850.Ownership
import Iec61850.TypesInUse
import Iec61850.RequestResources
import Iec61850.RequestOutcomes
