import AwsLc.Bytes
import AwsLc.Clamp
import AwsLc.Prime
import AwsLc.Ed25519.ScalarCheck
import AwsLc.Ed25519.Engine
import AwsLc.Ed25519.Sign
import AwsLc.Ed25519.Correctness
import AwsLc.X25519.Dispatch
import AwsLc.X25519.XLine
import AwsLc.X25519.CyclicLine
import AwsLc.X25519.KeyAgreement
import AwsLc.Erasure
import AwsLc.X509.Cache
import AwsLc.X509.Validity
import AwsLc.X509.Purpose
import AwsLc.X509.Concurrency
import AwsLc.X509.Liveness
import AwsLc.X509.Getters
import AwsLc.X509.Fields
import AwsLc.X509.Refinement
import AwsLc.X509.LeafPurposes
import AwsLc.X509.CaPurposes
